import PenPlotter.Console.Loop
import PenPlotter.Proofs.Session.Announcement

/-! # The panel mirrors the log

The console keeps the log a second time, in its panel, and follows the session by the events that
it is told.  `Console.act` is what a console makes of an action on its session: the events that
the session returns are printed at once and in their order.

The panel never loses the log (`Console.Mirrors.run`): what is announced is what the panel adds.
`Panel.Tells` says what is printed meanwhile.  Every entry is printed once, at its place in the
log; a panel that grows keeps the texts it has shown before, so it does not matter that several
events of one action are printed one after the other. -/

namespace PenPlotter

/-! ### What the panel shows -/

namespace Panel

/-- The panel shows what the other one shows, in the same way, and possibly more entries. -/
structure Grows (p p' : Panel) : Prop where
  entries : p.entries <+: p'.entries
  config : p'.config = p.config
  expanded : p'.expanded = p.expanded

/-- The texts tell of the events, of which the first one that appends an entry appends that of
the given index.  Every entry of the panel from that index on is told by its own text. -/
inductive Tells (p : Panel) : Nat → List SessionEvent → List String → Prop
  | nil : Tells p p.size [] []
  | state {n : Nat} {events : List SessionEvent} {texts : List String} (state : StreamState) :
      Tells p n events texts →
      Tells p n (.stateChanged state :: events) (("[stream] " ++ state.text) :: texts)
  | append {n : Nat} {events : List SessionEvent} {texts : List String} {e : Entry}
      (origin : Origin) {text : String} :
      p.entries[n]? = some e → p.format? n = some text → Tells p (n + 1) events texts →
      Tells p n (.entryAppended e origin :: events) (text :: texts)

section panel

variable {p p' p'' : Panel} {n : Nat}

theorem Grows.refl (p : Panel) : p.Grows p := ⟨List.prefix_refl _, rfl, rfl⟩

theorem Grows.trans (h : p.Grows p') (h' : p'.Grows p'') : p.Grows p'' :=
  ⟨h.entries.trans h'.entries, h'.config.trans h.config, h'.expanded.trans h.expanded⟩

theorem Grows.entry (h : p.Grows p') (hn : n < p.size) : p'.entries[n]? = p.entries[n]? := by
  obtain ⟨more, hmore⟩ := h.entries
  rw [← hmore]
  exact List.getElem?_append_left hn

theorem Grows.format? (h : p.Grows p') (hn : n < p.size) : p'.format? n = p.format? n := by
  unfold Panel.format? displayResponse? isExpanded
  rw [h.entry hn, h.config, h.expanded]

theorem exists_format? (hn : n < p.size) : ∃ text, p.format? n = some text := by
  unfold Panel.format? displayResponse?
  rw [List.getElem?_eq_getElem hn]
  exact ⟨_, rfl⟩

theorem entries_append (p : Panel) (e : Entry) : (p.append e).1.entries = p.entries ++ [e] := by
  unfold append
  cases p.scroll.action false <;> rfl

theorem grows_append (p : Panel) (e : Entry) : p.Grows (p.append e).1 where
  entries := by
    rw [entries_append]
    exact List.prefix_append _ _
  config := by
    unfold append
    cases p.scroll.action false <;> rfl
  expanded := by
    unfold append
    cases p.scroll.action false <;> rfl

theorem size_append (p : Panel) (e : Entry) : (p.append e).1.size = p.size + 1 := by
  unfold size
  rw [entries_append, List.length_append, List.length_singleton]

end panel

end Panel

theorem Display.event_entryAppended (p : Panel) (e : Entry) (origin : Origin) (es : List Entry) :
    ∃ text, (p.append e).1.format? p.size = some text ∧
      Display.event p (.entryAppended e origin) es = ((p.append e).1, [text]) := by
  have hlt : p.size < (p.append e).1.size := by
    rw [Panel.size_append]
    exact Nat.lt_succ_self _
  obtain ⟨text, htext⟩ := Panel.exists_format? hlt
  refine ⟨text, htext, ?_⟩
  simp only [Display.event, Panel.apply, Panel.size_append, Nat.add_sub_cancel_left]
  simp [htext]

/-! ### What the console prints -/

namespace Console

/-- Prints events of the session, one after the other. -/
def tellAll (c : Console) (events : List SessionEvent) : Console := events.foldl tell c

/-- The panel holds the log of the session. -/
def Mirrors (c : Console) : Prop := c.panel.entries = c.system.client.entries

section telling

variable {c : Console}

theorem system_tellAll (c : Console) (events : List SessionEvent) :
    (c.tellAll events).system = c.system := by
  induction events generalizing c with
  | nil => rfl
  | cons e events ih => exact ih (c.tell e)

theorem tell_stateChanged (c : Console) (s : StreamState) :
    c.tell (.stateChanged s) = c.print ["[stream] " ++ s.text] := rfl

theorem exists_tell_entryAppended (c : Console) (e : Entry) (origin : Origin) :
    ∃ text, (c.panel.append e).1.format? c.panel.size = some text ∧
      c.tell (.entryAppended e origin) = { c with panel := (c.panel.append e).1 }.print [text] := by
  obtain ⟨text, htext, hevent⟩ :=
    Display.event_entryAppended c.panel e origin c.system.client.entries
  refine ⟨text, htext, ?_⟩
  unfold tell
  rw [hevent]

/-- Events that announce how the panel's entries grow make the panel grow in that way, and each
of them is told. -/
theorem exists_tells {es es' : List Entry} {events : List SessionEvent}
    (h : Announces es events es') (c : Console) (hc : c.panel.entries = es) :
    (c.tellAll events).panel.entries = es' ∧ c.panel.Grows (c.tellAll events).panel ∧
    ∃ texts, (c.tellAll events).output = c.output ++ texts ∧
      (c.tellAll events).panel.Tells c.panel.size events texts := by
  induction h generalizing c with
  | nil => exact ⟨hc, .refl _, [], (List.append_nil _).symm, .nil⟩
  | @state es es' events s _ ih =>
      obtain ⟨hentries, hgrows, texts, houtput, htells⟩ := ih (c.tell (.stateChanged s)) hc
      refine ⟨hentries, hgrows, ("[stream] " ++ s.text) :: texts, ?_, .state s htells⟩
      rw [tellAll, List.foldl_cons, ← tellAll, houtput, tell_stateChanged, print,
        List.append_assoc, List.singleton_append]
  | @append es es' events e origin _ ih =>
      obtain ⟨text, htext, htell⟩ := c.exists_tell_entryAppended e origin
      -- The panel right after this event; the panel at the end grows from it.
      obtain ⟨hentries, hgrows, texts, houtput, htells⟩ :=
        ih (c.tell (.entryAppended e origin)) (by
          rw [htell, ← hc]
          exact c.panel.entries_append e)
      rw [htell] at hgrows htells houtput
      have hsize : c.panel.size < (c.panel.append e).1.size := by
        rw [Panel.size_append]
        exact Nat.lt_succ_self _
      have hentry : (c.panel.append e).1.entries[c.panel.size]? = some e := by
        rw [Panel.entries_append]
        exact List.getElem?_concat_length
      refine ⟨hentries, (c.panel.grows_append e).trans ?_, text :: texts, ?_, ?_⟩
      · rw [tellAll, List.foldl_cons, ← tellAll, htell]
        exact hgrows
      · rw [tellAll, List.foldl_cons, ← tellAll, htell, houtput, print, List.append_assoc,
          List.singleton_append]
      · rw [tellAll, List.foldl_cons, ← tellAll, htell]
        refine .append origin ?_ ?_ ?_
        · exact (hgrows.entry hsize).trans hentry
        · exact (hgrows.format? hsize).trans htext
        · rw [← c.panel.size_append e]
          exact htells

end telling

end Console

/-! ### Actions on the session -/

/-- What can be done to the session of a console. -/
inductive SessionAction where
  /-- The client handles a message at once. -/
  | handle (m : Message)
  /-- A message is put into the queue. -/
  | send (m : Message)
  | pump
  | drain
  | reload (entries : List Entry)
  | clear
  | start
  | stop
deriving Repr, Inhabited

/-- The session after an action, and the events that the client returns; starting and stopping
return none. -/
def System.answer (s : System) : SessionAction → System × List SessionEvent
  | .handle m => let r := s.client.handle m; ((s.react r).1, r.event.toList)
  | .send m => (s.enqueue m, [])
  | .pump => (s.pump.1, s.pump.2.toList)
  | .drain => s.drain
  | .reload entries => let r := s.client.reload entries; ((s.react r).1, r.event.toList)
  | .clear => let r := s.client.clear; ((s.react r).1, r.event.toList)
  | .start => ((s.react s.client.start).1, [])
  | .stop => ((s.react s.client.stop).1, [])

namespace Console

/-- A console with a new session and a new panel. -/
def new (reconnectDelay capacity : Nat) (config : PanelConfig) : Console :=
  ⟨System.new reconnectDelay capacity, Panel.new config, [], [], true⟩

/-- The console after an action on its session, whose events are printed. -/
def act (c : Console) (a : SessionAction) : Console :=
  let (system, events) := c.system.answer a
  { c with system }.tellAll events

/-- The console after a list of actions. -/
def run (c : Console) (as : List SessionAction) : Console := as.foldl act c

/-- What an action prints, where `c'` is the console after it.  A reload shows the last page of the
log.  Otherwise the log grows, and each event of the client is told, an entry at its place in the
log. -/
def Shows (c : Console) (a : SessionAction) (c' : Console) : Prop :=
  match a with
  | .reload entries =>
    c'.system.client.entries = entries ∧
    c'.output = c.output ++ ("[log] " ++ toString entries.length ++ " entries") ::
      c'.panel.pageEntries.filterMap fun e => c'.panel.format? e.1
  | .clear => c'.system.client.entries = [] ∧ c'.output = c.output ++ ["[log] cleared"]
  | _ =>
    c.system.client.entries <+: c'.system.client.entries ∧
    ∃ texts, c'.output = c.output ++ texts ∧
      c'.panel.Tells c.panel.size (c.system.answer a).2 texts

section actions

variable {c : Console}

theorem mirrors_new (delay capacity : Nat) (config : PanelConfig) :
    (new delay capacity config).Mirrors := rfl

theorem system_act (c : Console) (a : SessionAction) :
    (c.act a).system = (c.system.answer a).1 := system_tellAll _ _

/-- An action whose events announce how the log grows keeps the panel in step with it. -/
theorem Mirrors.of_announces (h : c.Mirrors) {a : SessionAction}
    (ha : Announces c.system.client.entries (c.system.answer a).2
      (c.system.answer a).1.client.entries) :
    (c.act a).Mirrors ∧ c.system.client.entries <+: (c.act a).system.client.entries ∧
    ∃ texts, (c.act a).output = c.output ++ texts ∧
      (c.act a).panel.Tells c.panel.size (c.system.answer a).2 texts := by
  obtain ⟨hentries, hgrows, hshown⟩ :=
    exists_tells ha { c with system := (c.system.answer a).1 } h
  have hmirrors : (c.act a).Mirrors := by
    unfold Mirrors
    rw [system_act]
    exact hentries
  refine ⟨hmirrors, ?_, hshown⟩
  rw [← hmirrors, ← h]
  exact hgrows.entries

theorem announces_of_log_eq {s : System} {r : Reaction} (h : r.client.log = s.client.log) :
    Announces s.client.entries [] (s.react r).1.client.entries := by
  rw [System.client_react, Client.entries, Client.entries, h]
  exact .nil

/-- Every action keeps the panel in step with the log, and prints what it has to. -/
theorem Mirrors.act (h : c.Mirrors) (a : SessionAction) :
    (c.act a).Mirrors ∧ c.Shows a (c.act a) := by
  cases a with
  | handle m =>
      refine h.of_announces (a := .handle m) ?_
      show Announces _ _ (System.react _ _).1.client.entries
      rw [System.client_react]
      exact c.system.client.announces_handle m
  | send m => exact h.of_announces (a := .send m) .nil
  | pump => exact h.of_announces (a := .pump) c.system.announces_pump
  | drain => exact h.of_announces (a := .drain) c.system.announces_drain
  | reload entries => exact ⟨rfl, rfl, rfl⟩
  | clear => exact ⟨rfl, rfl, rfl⟩
  | start => exact h.of_announces (a := .start) (announces_of_log_eq c.system.client.log_start)
  | stop => exact h.of_announces (a := .stop) (announces_of_log_eq c.system.client.log_stop)

theorem Mirrors.run (h : c.Mirrors) (as : List SessionAction) : (c.run as).Mirrors := by
  induction as generalizing c with
  | nil => exact h
  | cons a as ih => exact ih (h.act a).1

/-- A message that is dropped changes nothing and prints nothing. -/
theorem act_handle_of_drops {m : Message} (hm : c.system.client.Drops m) :
    c.act (.handle m) = c := by
  show tellAll { c with system := (c.system.react (c.system.client.handle m)).1 }
    (c.system.client.handle m).event.toList = c
  rw [Client.handle_of_drops hm]
  rfl

/-- **The console shows the session log.**  After every run of actions on the session of a new
console the panel holds the log, and whatever is done next, each entry that the client appends is
printed once, at its place in the log.  Messages that are dropped change and print nothing, also
when they have waited in the queue. -/
theorem run_shows_log (delay capacity : Nat) (config : PanelConfig) (as : List SessionAction) :
    let c := (new delay capacity config).run as
    c.panel.entries = c.system.client.entries ∧
    (∀ a, c.Shows a (c.act a)) ∧
    ∀ m, c.system.client.Drops m →
      c.act (.handle m) = c ∧
      ∀ rest, c.system.queue = m :: rest →
        let c' := { c with system := { c.system with queue := rest } }
        c.act .pump = c'.act .pump ∧ c.act .drain = c'.act .drain := by
  intro c
  have h : c.Mirrors := (mirrors_new delay capacity config).run as
  refine ⟨h, fun a => (h.act a).2, fun m hm => ⟨act_handle_of_drops hm, ?_⟩⟩
  intro rest hq c'
  constructor
  · show tellAll { c with system := c.system.pump.1 } c.system.pump.2.toList = _
    rw [System.pump_of_drops hq hm]
    rfl
  · show tellAll { c with system := c.system.drain.1 } c.system.drain.2 = _
    rw [System.drain_of_drops hq hm]
    rfl

end actions

/-! ### The console that runs -/

section running

variable {c : Console} {σ : Type} {d : Device σ}

theorem Mirrors.print (h : c.Mirrors) (texts : List String) : (c.print texts).Mirrors := h

theorem Mirrors.withSystem (h : c.Mirrors) {s : System}
    (hs : s.client.entries = c.system.client.entries) : Mirrors { c with system := s } :=
  Eq.trans h hs.symm

theorem Mirrors.handleNext (h : c.Mirrors) : c.handleNext.Mirrors := by
  obtain ⟨hentries, _⟩ := exists_tells c.system.announces_handleNext
    { c with system := c.system.handleNext.1 } h
  unfold Console.handleNext
  rcases hnext : c.system.handleNext with ⟨s, _ | event⟩ <;> rw [hnext] at hentries
  · exact hentries
  · exact hentries

theorem Mirrors.reactSilently (h : c.Mirrors) {r : Reaction}
    (hr : r.client.log = c.system.client.log) : (c.reactSilently r).Mirrors := by
  refine h.withSystem ?_
  rw [System.client_react, Client.entries, Client.entries, hr]

theorem Mirrors.finish (h : c.Mirrors) : c.finish.Mirrors :=
  h.reactSilently c.system.client.log_stop

theorem Mirrors.fetch (h : c.Mirrors) (s : σ) : (Console.fetch d s c).2.Mirrors := by
  unfold Console.fetch
  split
  · exact (h.act (.reload _)).1
  · exact h

theorem Mirrors.direct (h : c.Mirrors) (s : σ) (name : String) (call : DeviceCall)
    {done : Console → Console} (hdone : (done c).Mirrors) :
    (Console.direct d s c name call done).2.Mirrors := by
  unfold Console.direct
  split
  · exact hdone
  · exact h

theorem Mirrors.takeLine (h : c.Mirrors) (s : σ) (text : String) :
    (Console.takeLine d s c text).2.Mirrors := by
  unfold Console.takeLine
  cases ConsoleInput.ofLine text with
  | stop => exact h.direct s _ _ h
  | pause => exact h.direct s _ _ h
  | clear => exact h.direct s _ _ (h.act .clear).1
  | reload => exact h.fetch s
  | quit => exact h.finish
  | _ => exact h

theorem Mirrors.runTask (h : c.Mirrors) (s : σ) (i : Nat) :
    (Console.runTask d s c i).2.Mirrors := by
  unfold Console.runTask
  split
  · unfold Console.send
    rcases d.sendCommand s _ with ⟨s', answer⟩
    cases answer <;> exact h
  · exact h

theorem Mirrors.step (h : c.Mirrors) (s : σ) (next : ConsoleStep) :
    (Console.step d s c next).2.Mirrors := by
  unfold Console.step
  split
  · exact h
  cases next with
  | line text => exact h.takeLine s text
  | endOfInput => exact h.finish
  | message => exact h.handleNext
  | task i => exact h.runTask s i
  | peer g p => exact h.withSystem (congrArg Client.entries (System.client_peerStep _ g p))
  | timer n => exact h.withSystem (congrArg Client.entries (System.client_fire _ n))
  | pass ms => exact h

theorem Mirrors.steps (h : c.Mirrors) (s : σ) (next : List ConsoleStep) :
    (Console.steps d s c next).2.Mirrors := by
  unfold Console.steps
  induction next generalizing s c with
  | nil => exact h
  | cons x next ih => exact ih (h.step s x) _

/-- The panel of a console that runs holds the log of its session, whatever the device answers and
in whatever order lines, messages and tasks come. -/
theorem mirrors_steps (s : σ) (settings : Settings) (next : List ConsoleStep) :
    match Console.begin? d s settings with
    | (t, .ok c) => (Console.steps d t c next).2.Mirrors
    | (_, .error _) => StreamAddress.isValid settings.stream.url = false := by
  cases hvalid : StreamAddress.isValid settings.stream.url with
  | false => simp [begin?, hvalid]
  | true =>
      have hfetched := Mirrors.fetch (d := d)
        (mirrors_new settings.stream.reconnectDelay.toNat settings.stream.seenCapacity.toNat
          settings.console.panel) s
      simp only [begin?, hvalid, Bool.not_true, Bool.false_eq_true, if_false]
      exact Mirrors.steps (Mirrors.print (hfetched.reactSilently (Client.log_start _)) _) _ next

end running

end Console
end PenPlotter
