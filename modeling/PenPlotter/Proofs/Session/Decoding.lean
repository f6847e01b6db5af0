import PenPlotter.Proofs.Json.Value
import PenPlotter.Session.EntryJson
import PenPlotter.Session.StreamMessage

/-! # Decoding messages of the stream

A message is decoded in two stages, from the text to a value and from the value to an entry.  What
comes of it is told from the text alone (`Decodes`): whether it is JSON, and which texts it has for
the type and for the fields of an entry.  A text says one thing for a name only (`Says.unique`), so
the cases exclude each other, and each outcome is that of exactly one case (`classifies_texts`). -/

namespace PenPlotter

open Json

theorem Json.Says.unique {text name s s' : String} (h : Says text name s)
    (h' : Says text name s') : s = s' := by
  obtain ⟨v, hv, hget⟩ := says_iff.mp h
  obtain ⟨v', hv', hget'⟩ := says_iff.mp h'
  rw [hv, Option.some_inj] at hv'
  rw [← hv', hget] at hget'
  cases hget'
  rfl

namespace StreamMessage

/-! ### Fields of entries -/

section fields

variable {has : String → String → Prop} {e e' : Entry}

/-- What there is for the names of the fields is the entry. -/
structure Carries (has : String → String → Prop) (e : Entry) : Prop where
  timestamp : has "timestamp" e.timestamp
  command : has "command" e.command
  response : has "response" e.response

/-- There is no text for one of the fields. -/
def Lacks (has : String → String → Prop) : Prop := ∃ name ∈ Entry.fieldNames, ∀ s, ¬has name s

theorem Carries.not_lacks (h : Carries has e) : ¬Lacks has := by
  rintro ⟨name, hname, hnone⟩
  simp only [Entry.fieldNames, List.mem_cons, List.not_mem_nil, or_false] at hname
  rcases hname with rfl | rfl | rfl
  · exact hnone _ h.timestamp
  · exact hnone _ h.command
  · exact hnone _ h.response

theorem Carries.unique {text : String} (h : Carries (Says text) e) (h' : Carries (Says text) e') :
    e = e' := by
  obtain ⟨timestamp, command, response⟩ := e
  obtain ⟨timestamp', command', response'⟩ := e'
  rw [Entry.mk.injEq]
  exact ⟨h.timestamp.unique h'.timestamp, h.command.unique h'.command,
    h.response.unique h'.response⟩

end fields

/-! ### From values to entries -/

section values

variable (v : Json)

/-- The value has the text for the name. -/
def HasText (name s : String) : Prop := v.get? name = some (.string s)

theorem field_cases (name : String) :
    (∃ found, field v name = .ok found ∧ ∀ s, HasText v name s ↔ found = some s) ∨
      ∃ other, field v name = .error (.wrongKind other) ∧ ∀ s, ¬HasText v name s := by
  unfold field HasText
  split
  case h_1 hnone => exact .inl ⟨none, rfl, by simp [hnone]⟩
  case h_2 s hsome => exact .inl ⟨some s, rfl, by simp [hsome]⟩
  case h_3 other hstring hsome =>
      refine .inr ⟨other, rfl, fun s hs => hstring s ?_⟩
      exact Option.some.inj (hsome.symm.trans hs)

/-- An entry is taken from its fields, and there is a failure only where one of them is no text. -/
theorem entry_cases :
    (∃ e, entry v = .ok e ∧ Carries (HasText v) e) ∨
      ∃ fault reason, entry v = .error fault ∧ fault.error = .invalidMessage entryType reason ∧
        Lacks (HasText v) := by
  rcases field_cases v "command" with ⟨command, hcommand, hc⟩ | ⟨other, hcommand, hc⟩
  case inr =>
    exact .inr ⟨.wrongKind other, _, by rw [entry, hcommand]; rfl, rfl, "command", by decide, hc⟩
  rcases field_cases v "response" with ⟨response, hresponse, hr⟩ | ⟨other, hresponse, hr⟩
  case inr =>
    exact .inr ⟨.wrongKind other, _, by rw [entry, hcommand, hresponse]; rfl, rfl, "response",
      by decide, hr⟩
  rcases field_cases v "timestamp" with ⟨timestamp, htimestamp, ht⟩ | ⟨other, htimestamp, ht⟩
  case inr =>
    exact .inr ⟨.wrongKind other, _, by rw [entry, hcommand, hresponse, htimestamp]; rfl, rfl,
      "timestamp", by decide, ht⟩
  -- no field is of a wrong kind, so the first one that is missing is reported
  have hentry : entry v = (do
      let timestamp ← given "timestamp" timestamp
      let command ← given "command" command
      let response ← given "response" response
      return ⟨timestamp, command, response⟩) := by
    rw [entry, hcommand, hresponse, htimestamp]
    rfl
  rw [hentry]
  cases timestamp with
  | none =>
      exact .inr ⟨.missingField "timestamp", _, rfl, rfl, "timestamp", by decide, by simpa using ht⟩
  | some timestamp =>
  cases command with
  | none =>
      exact .inr ⟨.missingField "command", _, rfl, rfl, "command", by decide, by simpa using hc⟩
  | some command =>
  cases response with
  | none =>
      exact .inr ⟨.missingField "response", _, rfl, rfl, "response", by decide, by simpa using hr⟩
  | some response =>
      exact .inl ⟨_, rfl, (ht timestamp).mpr rfl, (hc command).mpr rfl, (hr response).mpr rfl⟩

end values

/-! ### From texts to outcomes -/

/-- What texts decode to. -/
inductive Decodes (text : String) : Except StreamError (Option Entry) → Prop
  | malformed (reason : String) : (∀ type, ¬Says text "type" type) →
      Decodes text (.error (.malformedPayload reason))
  | passedOver {type : String} : Says text "type" type → type ≠ entryType →
      Decodes text (.ok none)
  | invalid (reason : String) : Says text "type" entryType → Lacks (Says text) →
      Decodes text (.error (.invalidMessage entryType reason))
  | entry {e : Entry} : Says text "type" entryType → Carries (Says text) e →
      Decodes text (.ok (some e))

theorem says_eq_hasText {text : String} {v : Json}
    (h : (Tree.ofString? text).bind Tree.value? = some v) : Says text = HasText v := by
  funext name s
  rw [eq_iff_iff, says_iff, h]
  simp [HasText]

theorem decodes_decode (text : String) : Decodes text (decode text) := by
  unfold decode read
  split
  case h_1 hnone =>
    refine .malformed _ fun type htype => ?_
    obtain ⟨v, hv, -⟩ := says_iff.mp htype
    rw [hnone] at hv
    cases hv
  case h_2 v hv =>
    have heq := says_eq_hasText hv
    split
    case h_1 type htype =>
      have htype : Says text "type" type := heq ▸ htype
      split_ifs with hentry
      case neg => exact .passedOver htype hentry
      case pos =>
        rw [hentry] at htype
        rcases entry_cases v with ⟨e, hok, he⟩ | ⟨fault, reason, herror, hfault, hlacks⟩
        · rw [hok]
          exact .entry htype (heq ▸ he)
        · have hdecode : ((StreamMessage.entry v).map some).mapError Fault.error =
              .error (.invalidMessage entryType reason) := by
            rw [herror, ← hfault]
            rfl
          rw [hdecode]
          exact .invalid reason htype (heq ▸ hlacks)
    case h_2 htype => exact .malformed _ fun type h => htype type (heq ▸ h :)

/-! ### The message of an entry -/

def entryMembers (e : Entry) : List (Literal × Tree) :=
  [(some "type", .string (some entryType)), (some "timestamp", .string (some e.timestamp)),
    (some "command", .string (some e.command)), (some "response", .string (some e.response))]

theorem isJson_write (e : Entry) : IsJson (write e) (.object (entryMembers e)) := by
  refine isJson_iff.mpr ⟨ofString?_compact _, ?_⟩
  simp [Tree.value?, Tree.valueAt?, entryMembers, membersAt?, maxDepth]

theorem says_write (e : Entry) :
    Says (write e) "type" entryType ∧ Carries (Says (write e)) e := by
  have hmember {name s : String} (n : ℕ)
      (hmembers : (entryMembers e).drop n =
        (some name, .string (some s)) :: (entryMembers e).drop (n + 1))
      (hafter : ∀ m ∈ (entryMembers e).drop (n + 1), m.1 ≠ some name) : Says (write e) name s := by
    refine ⟨entryMembers e, isJson_write e, (entryMembers e).take n, _, ?_, hafter⟩
    rw [← hmembers, List.take_append_drop]
  refine ⟨hmember 0 rfl ?_, hmember 1 rfl ?_, hmember 2 rfl ?_, hmember 3 rfl ?_⟩ <;>
    simp [entryMembers]

/-! ### The rule -/

section rule

variable {text : String}

theorem decode_eq_entry_iff {e : Entry} :
    decode text = .ok (some e) ↔ Says text "type" entryType ∧ Carries (Says text) e := by
  have hdecodes := decodes_decode text
  generalize decode text = outcome at hdecodes
  constructor
  · rintro rfl
    cases hdecodes with
    | entry htype he => exact ⟨htype, he⟩
  · rintro ⟨htype, he⟩
    cases hdecodes with
    | malformed _ hnone => exact absurd htype (hnone _)
    | passedOver hother hne => exact absurd (hother.unique htype) hne
    | invalid _ _ hlacks => exact absurd hlacks he.not_lacks
    | entry _ he' => rw [he'.unique he]

theorem decode_eq_none_iff :
    decode text = .ok none ↔ ∃ type, Says text "type" type ∧ type ≠ entryType := by
  have hdecodes := decodes_decode text
  generalize decode text = outcome at hdecodes
  constructor
  · rintro rfl
    cases hdecodes with
    | passedOver htype hne => exact ⟨_, htype, hne⟩
  · rintro ⟨type, htype, hne⟩
    cases hdecodes with
    | malformed _ hnone => exact absurd htype (hnone _)
    | passedOver => rfl
    | invalid _ hentry _ => exact absurd (htype.unique hentry) hne
    | entry hentry _ => exact absurd (htype.unique hentry) hne

theorem decode_eq_invalid_iff :
    (∃ reason, decode text = .error (.invalidMessage entryType reason)) ↔
      Says text "type" entryType ∧ Lacks (Says text) := by
  have hdecodes := decodes_decode text
  generalize decode text = outcome at hdecodes
  constructor
  · rintro ⟨reason, rfl⟩
    cases hdecodes with
    | invalid _ htype hlacks => exact ⟨htype, hlacks⟩
  · rintro ⟨htype, hlacks⟩
    cases hdecodes with
    | malformed _ hnone => exact absurd htype (hnone _)
    | passedOver hother hne => exact absurd (hother.unique htype) hne
    | invalid reason _ _ => exact ⟨reason, rfl⟩
    | entry _ he => exact absurd hlacks he.not_lacks

theorem decode_eq_malformed_iff :
    (∃ reason, decode text = .error (.malformedPayload reason)) ↔
      ∀ type, ¬Says text "type" type := by
  have hdecodes := decodes_decode text
  generalize decode text = outcome at hdecodes
  constructor
  · rintro ⟨reason, rfl⟩
    cases hdecodes with
    | malformed _ hnone => exact hnone
  · intro hnone
    cases hdecodes with
    | malformed reason _ => exact ⟨reason, rfl⟩
    | passedOver htype _ => exact absurd htype (hnone _)
    | invalid _ htype _ => exact absurd htype (hnone _)
    | entry htype _ => exact absurd htype (hnone _)

end rule

/-- **Messages are decoded by this rule**, so each entry is decoded from its message. -/
theorem classifies_texts :
    (∀ text,
      (∀ e, decode text = .ok (some e) ↔ Says text "type" entryType ∧ Carries (Says text) e) ∧
      (decode text = .ok none ↔ ∃ type, Says text "type" type ∧ type ≠ entryType) ∧
      ((∃ reason, decode text = .error (.invalidMessage entryType reason)) ↔
        Says text "type" entryType ∧ Lacks (Says text)) ∧
      ((∃ reason, decode text = .error (.malformedPayload reason)) ↔
        ∀ type, ¬Says text "type" type)) ∧
    ∀ e, decode (write e) = .ok (some e) :=
  ⟨fun _ => ⟨fun _ => decode_eq_entry_iff, decode_eq_none_iff, decode_eq_invalid_iff,
    decode_eq_malformed_iff⟩, fun e => decode_eq_entry_iff.mpr (says_write e)⟩

end StreamMessage
end PenPlotter
