import PenPlotter.Proofs.Session.Actions
import PenPlotter.Proofs.Text.WellFormed
import PenPlotter.Session.StreamFrame

/-! # What a connection sends

A socket yields whole frames in their order until it fails or ends.  `runConnection` is the task of
a connection as two loops, one around the other: the inner one (`nextText`) reads on to the next
text, the outer one (`forward`) sends each text as a payload.  What it sends in all is known from
the frames (`runConnection_eq`): a payload for each text before the first frame that closes or
failure, and then one message that the connection has ended.

A session has the task as a machine that answers one step of its peer after the other
(`ConnectionTask.answer?`).  Over the steps of a socket, the machine sends what the loops send
(`sends_script`). -/

namespace PenPlotter

/-- What a socket yields; behind the last item it has ended. -/
inductive SocketItem where
  | frame (f : StreamFrame)
  /-- Reading fails. -/
  | error (reason : String)
deriving Repr, DecidableEq, Inhabited

namespace SocketItem

/-- What the socket makes of a frame of the peer. -/
def ofFrame (f : StreamFrame) : SocketItem :=
  if f.isOversized then .error "control frame too big" else .frame f

def text? : SocketItem → Option String
  | .frame f => f.text?
  | .error _ => none

/-- Whether nothing is read behind the item. -/
def isLast : SocketItem → Bool
  | .frame .close => true
  | .frame _ => false
  | .error _ => true

/-- The texts before the first item behind which nothing is read. -/
def texts (items : List SocketItem) : List String :=
  (items.takeWhile fun i => !i.isLast).filterMap text?

/-- Why the reading comes to its end. -/
def reason (items : List SocketItem) : String :=
  match items.find? isLast with
  | some (.error reason) => (ConnectionError.webSocket reason).message
  | _ => "stream ended"

/-- What an item is to the machine that a session has for the task. -/
def peerStep? : SocketItem → Option PeerStep
  | .frame .close => some .finish
  | .frame f => f.text?.map .text
  | .error reason => some (.fail (.webSocket reason))

theorem isLast_frame {f : StreamFrame} (h : f ≠ .close) : (SocketItem.frame f).isLast = false := by
  cases f with
  | close => exact absurd rfl h
  | _ => rfl

theorem peerStep?_frame {f : StreamFrame} (h : f ≠ .close) :
    (SocketItem.frame f).peerStep? = f.text?.map .text := by
  cases f with
  | close => exact absurd rfl h
  | _ => rfl

end SocketItem

/-! ### The task as two loops -/

open SocketItem

section loops

/-- Reads on to the next text: the text, the failure, or nothing at the end; and what is left. -/
def nextText : List SocketItem → Option (Except ConnectionError String) × List SocketItem
  | [] => (none, [])
  | .error reason :: rest => (some (.error (.webSocket reason)), rest)
  | .frame .close :: rest => (none, rest)
  | .frame f :: rest =>
    match f.text? with
    | some s => (some (.ok s), rest)
    | none => nextText rest

theorem length_nextText {items rest : List SocketItem} {s : String}
    (h : nextText items = (some (.ok s), rest)) : rest.length < items.length := by
  fun_induction nextText items with
  | case1 | case2 | case3 => cases h
  | case4 => cases h; exact Nat.lt_succ_self _
  | case5 _ _ _ _ ih => exact Nat.lt_succ_of_lt (ih h)

/-- Sends every text, and the end of the connection when there is no other. -/
def forward (g : ℕ) (items : List SocketItem) : List Message :=
  match _h : nextText items with
  | (some (.ok s), rest) => .payload g s :: forward g rest
  | (some (.error e), _) => [.closed g e.message]
  | (none, _) => [.closed g "stream ended"]
termination_by items.length
decreasing_by exact length_nextText ‹_›

/-- What the task of a connection sends: the connection cannot be opened, or it is a socket. -/
def runConnection (g : ℕ) : Except ConnectionError (List SocketItem) → List Message
  | .error e => [.closed g e.message]
  | .ok items => .opened g :: forward g items

theorem forward_of_text {g : ℕ} {items rest : List SocketItem} {s : String}
    (h : nextText items = (some (.ok s), rest)) :
    forward g items = .payload g s :: forward g rest := by
  rw [forward]
  split
  case h_1 h' => rw [h] at h'; cases h'; rfl
  case h_2 h' => rw [h] at h'; cases h'
  case h_3 h' => rw [h] at h'; cases h'

theorem forward_of_failure {g : ℕ} {items rest : List SocketItem} {e : ConnectionError}
    (h : nextText items = (some (.error e), rest)) : forward g items = [.closed g e.message] := by
  rw [forward]
  split
  case h_1 h' => rw [h] at h'; cases h'
  case h_2 h' => rw [h] at h'; cases h'; rfl
  case h_3 h' => rw [h] at h'; cases h'

theorem forward_of_end {g : ℕ} {items rest : List SocketItem} (h : nextText items = (none, rest)) :
    forward g items = [.closed g "stream ended"] := by
  rw [forward]
  split
  case h_1 h' => rw [h] at h'; cases h'
  case h_2 h' => rw [h] at h'; cases h'
  case h_3 h' => rfl

/-- The outer loop does not notice what the inner one passes over. -/
theorem forward_congr {g : ℕ} {items items' : List SocketItem}
    (h : nextText items = nextText items') : forward g items = forward g items' := by
  rcases h' : nextText items' with ⟨_ | _ | _, rest⟩ <;> rw [h'] at h
  · rw [forward_of_end h, forward_of_end h']
  · rw [forward_of_failure h, forward_of_failure h']
  · rw [forward_of_text h, forward_of_text h']

end loops

/-! ### What is sent in all -/

section sent

variable {g : ℕ} {f : StreamFrame} {items : List SocketItem}

theorem texts_cons_of_last {i : SocketItem} (h : i.isLast = true) : texts (i :: items) = [] := by
  unfold texts
  rw [List.takeWhile_cons_of_neg (by simp [h])]
  rfl

theorem texts_cons_of_not_last {i : SocketItem} (h : i.isLast = false) :
    texts (i :: items) = i.text?.toList ++ texts items := by
  unfold texts
  rw [List.takeWhile_cons_of_pos (by simp [h]), List.filterMap_cons]
  cases i.text? <;> rfl

theorem reason_cons_of_not_last {i : SocketItem} (h : i.isLast = false) :
    reason (i :: items) = reason items := by
  unfold reason
  rw [List.find?_cons_of_neg (by simp [h])]

theorem forward_cons_of_ne_close (h : f ≠ .close) :
    forward g (.frame f :: items) =
      (f.text?.map (Message.payload g)).toList ++ forward g items := by
  have hnext : nextText (.frame f :: items) = match f.text? with
      | some s => (some (.ok s), items)
      | none => nextText items := by
    cases f with
    | close => exact absurd rfl h
    | _ => rfl
  cases ht : f.text? with
  | some s =>
      rw [ht] at hnext
      exact forward_of_text hnext
  | none =>
      rw [ht] at hnext
      exact forward_congr hnext

theorem forward_eq (g : ℕ) (items : List SocketItem) :
    forward g items = (texts items).map (.payload g) ++ [.closed g (reason items)] := by
  induction items with
  | nil =>
      have hnext : nextText [] = (none, []) := rfl
      rw [forward_of_end hnext]
      rfl
  | cons i items ih =>
      cases i with
      | error reason =>
          have hnext : nextText (.error reason :: items) =
              (some (.error (.webSocket reason)), items) := rfl
          rw [forward_of_failure hnext, texts_cons_of_last rfl]
          rfl
      | frame f =>
          by_cases hclose : f = .close
          · have hnext : nextText (.frame .close :: items) = (none, items) := rfl
            rw [hclose, forward_of_end hnext, texts_cons_of_last rfl]
            rfl
          · have h := isLast_frame hclose
            rw [forward_cons_of_ne_close hclose, texts_cons_of_not_last h,
              reason_cons_of_not_last h, ih, List.map_append, List.append_assoc]
            show _ = f.text?.toList.map _ ++ _
            cases f.text? <;> rfl

end sent

/-! ### Streams of frames -/

section frames

/-- What the socket yields when the peer sends frames and then is gone. -/
def ofFrames (fs : List StreamFrame) : List SocketItem :=
  fs.map ofFrame ++ [.error "connection reset without closing handshake"]

theorem readAll_cons {f : StreamFrame} (h : f ≠ .close) (fs : List StreamFrame) :
    StreamFrame.readAll (f :: fs) =
      if f.isOversized then ([], some StreamFrame.oversized)
      else (f.text?.toList ++ (StreamFrame.readAll fs).1, (StreamFrame.readAll fs).2) := by
  cases f with
  | close => exact absurd rfl h
  | _ => rfl

/-- The texts and the failure of a stream are those of the task that reads it. -/
theorem readAll_eq (fs : List StreamFrame) :
    (StreamFrame.readAll fs).1 = texts (ofFrames fs) ∧
      ((StreamFrame.readAll fs).2.map ConnectionError.message).getD "stream ended" =
        reason (ofFrames fs) := by
  induction fs with
  | nil => exact ⟨rfl, rfl⟩
  | cons f fs ih =>
      have hcons : ofFrames (f :: fs) = ofFrame f :: ofFrames fs := rfl
      rw [hcons]
      by_cases hclose : f = .close
      · subst hclose
        exact ⟨rfl, rfl⟩
      rw [readAll_cons hclose, ofFrame]
      split
      · exact ⟨rfl, rfl⟩
      · rw [texts_cons_of_not_last (isLast_frame hclose),
          reason_cons_of_not_last (isLast_frame hclose), ← ih.1, ← ih.2]
        exact ⟨rfl, rfl⟩

end frames

/-! ### The task as a machine -/

/-- Whether a task that hears the step has nothing to hear any more. -/
def PeerStep.isEnd : PeerStep → Bool
  | .refuse _ | .fail _ | .finish => true
  | _ => false

namespace ConnectionTask

/-- The message that a task sends in answer to its peer, and the task afterwards.  A step that it
cannot answer is passed over. -/
def hear (t : Option ConnectionTask) (p : PeerStep) : Option Message × Option ConnectionTask :=
  match t.bind (·.answer? p) with
  | some (m, t') => (some m, t')
  | none => (none, t)

/-- The messages that a task sends in answer to the steps of its peer. -/
def sends (t : Option ConnectionTask) : List PeerStep → List Message
  | [] => []
  | p :: ps => (hear t p).1.toList ++ sends (hear t p).2 ps

/-- The task after the steps of its peer. -/
def after (t : Option ConnectionTask) (ps : List PeerStep) : Option ConnectionTask :=
  ps.foldl (fun t p => (hear t p).2) t

variable {g : ℕ} {t : Option ConnectionTask} {ps qs : List PeerStep}

theorem sends_append (t : Option ConnectionTask) (ps qs : List PeerStep) :
    sends t (ps ++ qs) = sends t ps ++ sends (after t ps) qs := by
  induction ps generalizing t with
  | nil => rfl
  | cons p ps ih => rw [List.cons_append, sends, sends, ih, List.append_assoc]; rfl

theorem sends_concat (t : Option ConnectionTask) (ps : List PeerStep) (p : PeerStep) :
    sends t (ps ++ [p]) = sends t ps ++ (hear (after t ps) p).1.toList := by
  rw [sends_append, sends, sends, List.append_nil]

theorem after_concat (t : Option ConnectionTask) (ps : List PeerStep) (p : PeerStep) :
    after t (ps ++ [p]) = (hear (after t ps) p).2 := by
  unfold after
  rw [List.foldl_append]
  rfl

theorem sends_none (ps : List PeerStep) : sends none ps = [] := by
  induction ps with
  | nil => rfl
  | cons p ps ih => exact ih

theorem sends_prefix (h : ps <+: qs) : sends t ps <+: sends t qs := by
  obtain ⟨rest, rfl⟩ := h
  rw [sends_append]
  exact List.prefix_append _ _

/-- What the peer of a connection does, step by step. -/
def script : Except ConnectionError (List SocketItem) → List PeerStep
  | .error e => [.refuse e.message]
  | .ok items => .accept :: (items.filterMap peerStep? ++ [.finish])

theorem sends_reading (g : ℕ) (items : List SocketItem) :
    sends (some ⟨g, true⟩) (items.filterMap peerStep? ++ [.finish]) =
      (texts items).map (.payload g) ++ [.closed g (reason items)] := by
  induction items with
  | nil => rfl
  | cons i items ih =>
      cases i with
      | error reason =>
          rw [texts_cons_of_last rfl]
          show _ ++ sends none _ = _
          rw [sends_none]
          rfl
      | frame f =>
          by_cases hclose : f = .close
          · subst hclose
            rw [texts_cons_of_last rfl]
            show _ ++ sends none _ = _
            rw [sends_none]
            rfl
          · have h := isLast_frame hclose
            rw [texts_cons_of_not_last h, reason_cons_of_not_last h, List.filterMap_cons,
              peerStep?_frame hclose]
            show _ = (f.text?.toList ++ _).map _ ++ _
            cases f.text? with
            | none => exact ih
            | some s => exact congrArg (.payload g s :: ·) ih

/-- The machine sends what the loops send. -/
theorem sends_script (g : ℕ) (connection : Except ConnectionError (List SocketItem)) :
    sends (some ⟨g, false⟩) (script connection) = runConnection g connection := by
  cases connection with
  | error e => rfl
  | ok items =>
      rw [runConnection, forward_eq, ← sends_reading]
      rfl

theorem exists_ends_of_heard {p : PeerStep} (hp : p ∈ ps) (hend : p = .finish ∨ ∃ e, p = .fail e) :
    ∃ m ∈ sends (some ⟨g, true⟩) ps, m.Ends g := by
  induction ps with
  | nil => cases hp
  | cons q ps ih =>
      have hlater (hne : p ≠ q) : ∃ m ∈ sends (some ⟨g, true⟩) ps, m.Ends g :=
        ih ((List.mem_cons.mp hp).resolve_left hne)
      cases q with
      | fail e => exact ⟨_, List.mem_append_left _ (List.mem_singleton_self _), e.message, rfl⟩
      | finish => exact ⟨_, List.mem_append_left _ (List.mem_singleton_self _), _, rfl⟩
      | text s =>
          obtain ⟨m, hm, h⟩ := hlater (by rcases hend with rfl | ⟨e, rfl⟩ <;> exact nofun)
          exact ⟨m, List.mem_append_right _ hm, h⟩
      | accept => exact hlater (by rcases hend with rfl | ⟨e, rfl⟩ <;> exact nofun)
      | refuse reason => exact hlater (by rcases hend with rfl | ⟨e, rfl⟩ <;> exact nofun)

theorem peerStep?_ne_refuse (i : SocketItem) (reason : String) :
    i.peerStep? ≠ some (.refuse reason) := by
  cases i with
  | error reason => exact nofun
  | frame f =>
      by_cases hclose : f = .close
      · subst hclose
        exact nofun
      · rw [peerStep?_frame hclose]
        cases f.text? <;> exact nofun

/-- When a task has heard of the end, it has sent it. -/
theorem exists_ends_of_script {connection : Except ConnectionError (List SocketItem)}
    (hps : ps <+: script connection) {p : PeerStep} (hp : p ∈ ps) (hend : p.isEnd = true) :
    ∃ m ∈ sends (some ⟨g, false⟩) ps, m.Ends g := by
  obtain ⟨q, ps, rfl⟩ := List.exists_cons_of_ne_nil (List.ne_nil_of_mem hp)
  cases connection with
  | error e =>
      obtain ⟨rfl, -⟩ := List.cons_prefix_cons.mp hps
      exact ⟨_, List.mem_append_left _ (List.mem_singleton_self _), e.message, rfl⟩
  | ok items =>
      obtain ⟨rfl, hrest⟩ := List.cons_prefix_cons.mp hps
      have hread : p ∈ ps := (List.mem_cons.mp hp).resolve_left (by rintro rfl; cases hend)
      have hstep : p = .finish ∨ ∃ e, p = .fail e := by
        cases p with
        | finish => exact .inl rfl
        | fail e => exact .inr ⟨e, rfl⟩
        | text s => cases hend
        | accept => cases hend
        | refuse reason =>
            rcases List.mem_append.mp (hrest.subset hread) with hmem | hmem
            · obtain ⟨i, -, hi⟩ := List.mem_filterMap.mp hmem
              exact absurd hi (peerStep?_ne_refuse i reason)
            · exact nomatch List.mem_singleton.mp hmem
      obtain ⟨m, hm, h⟩ := exists_ends_of_heard (g := g) hread hstep
      exact ⟨m, List.mem_append_right _ hm, h⟩

end ConnectionTask

end PenPlotter
