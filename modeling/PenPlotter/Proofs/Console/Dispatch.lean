import Mathlib.Data.List.Perm.Basic
import PenPlotter.Console.Loop

/-! # The way of a typed command

A typed command is handed to a task and reaches the device when that task runs.  Tasks run in any
order, and the console may end before they do.

For the commands a console comes down to a `Ledger`: those the device has received, those that
still wait, and whether the console runs.  A step of the console is a step of its ledger
(`Console.ledger_step`).  What a ledger has received and what waits in it are together the
commands that were typed, in another order at most (`Ledger.balance_steps`), and in the very order
in which they were typed if tasks run oldest first.  What still waits when the console is left is
lost (`Console.received_of_play_quit`). -/

namespace PenPlotter

/-! ### What is typed and what is received -/

def DeviceCall.command? : DeviceCall → Option String
  | .sendCommand command => some command
  | _ => none

/-- The commands among the calls that a device has received. -/
def commandsOf (calls : List DeviceCall) : List String := calls.filterMap DeviceCall.command?

/-- The device, with the calls that it has received, the first one first. -/
def Device.recorded {σ : Type} (d : Device σ) : Device (σ × List DeviceCall) :=
  ⟨fun s call => let r := d.ask s.1 call; ((r.1, s.2 ++ [call]), r.2)⟩

/-- What a step asks for by a typed line; the end of the input ends the console as well. -/
def ConsoleStep.input : ConsoleStep → ConsoleInput
  | .line text => .ofLine text
  | .endOfInput => .quit
  | _ => .empty

/-- The commands that are typed until the console is left. -/
def typedCommands : List ConsoleStep → List String
  | [] => []
  | x :: next =>
    match x.input with
    | .quit => []
    | .command command => command :: typedCommands next
    | _ => typedCommands next

theorem typedCommands_cons (x : ConsoleStep) (next : List ConsoleStep) :
    typedCommands (x :: next) =
      match x.input with
      | .quit => []
      | .command command => command :: typedCommands next
      | _ => typedCommands next := rfl

/-- Tasks run in the order in which they were spawned. -/
def OldestFirst (next : List ConsoleStep) : Prop := ∀ i, ConsoleStep.task i ∈ next → i = 0

section typing

/-- A command is the text of its line without the white space around it, and does not start with
a slash. -/
theorem ConsoleInput.ofLine_eq_command {line command : String}
    (h : ofLine line = .command command) :
    command = Text.trimString line ∧ command.toList.head? ≠ some '/' := by
  unfold ofLine at h
  split at h
  · cases h
  · rename_i directive _
    unfold ofDirective? at h
    split at h <;> cases h
  · rename_i hslash
    obtain rfl := ConsoleInput.command.inj h
    refine ⟨rfl, fun hhead => ?_⟩
    rw [String.toList_ofList] at hhead
    obtain ⟨rest, hrest⟩ := List.head?_eq_some_iff.mp hhead
    exact hslash rest hrest

theorem exists_line_of_mem_typedCommands {command : String} {next : List ConsoleStep}
    (h : command ∈ typedCommands next) :
    ∃ line, .line line ∈ next ∧ ConsoleInput.ofLine line = .command command := by
  induction next with
  | nil => cases h
  | cons x next ih =>
      have hlater : command ∈ typedCommands next →
          ∃ line, .line line ∈ x :: next ∧ ConsoleInput.ofLine line = .command command := by
        intro hrest
        obtain ⟨line, hline, hcommand⟩ := ih hrest
        exact ⟨line, List.mem_cons_of_mem _ hline, hcommand⟩
      unfold typedCommands at h
      split at h
      · cases h
      · rename_i typed hinput
        rcases List.mem_cons.mp h with rfl | hrest
        · cases x with
          | line text => exact ⟨text, List.mem_cons_self, hinput⟩
          | _ => cases hinput
        · exact hlater hrest
      · exact hlater h

end typing

/-! ### Ledgers -/

/-- A console as it matters for commands. -/
structure Ledger where
  received : List String
  waiting : List String
  running : Bool

namespace Ledger

/-- Takes in what a line asks for. -/
def enter (p : Ledger) : ConsoleInput → Ledger
  | .command command => { p with waiting := p.waiting ++ [command] }
  | .quit => { p with running := false }
  | _ => p

/-- The command at a place reaches the device. -/
def deliver (p : Ledger) (i : Nat) : Ledger :=
  match p.waiting[i]? with
  | some command =>
    { p with received := p.received ++ [command], waiting := p.waiting.eraseIdx i }
  | none => p

/-- What comes next changes the ledger of a console that runs. -/
def advance (p : Ledger) : ConsoleStep → Ledger
  | .task i => p.deliver i
  | x => p.enter x.input

def step (p : Ledger) (x : ConsoleStep) : Ledger := if !p.running then p else p.advance x

/-- What was received, what waits, and what is still to be typed. -/
def balance (p : Ledger) (next : List ConsoleStep) : List String :=
  p.received ++ p.waiting ++ if p.running then typedCommands next else []

section balance

variable {p : Ledger} {x : ConsoleStep} {next : List ConsoleStep}

theorem step_of_stopped (h : p.running = false) (x : ConsoleStep) : p.step x = p :=
  if_pos (by rw [h]; rfl)

theorem step_of_running (h : p.running = true) (x : ConsoleStep) : p.step x = p.advance x :=
  if_neg (by rw [h]; simp)

theorem foldl_step_of_stopped (h : p.running = false) (next : List ConsoleStep) :
    next.foldl step p = p := by
  induction next with
  | nil => rfl
  | cons x next ih => rw [List.foldl_cons, step_of_stopped h, ih]

/-- A step that leaves the console is the last one that changes the ledger, and nothing is received
by it. -/
theorem received_of_quit (hx : x.input = .quit) :
    ((x :: next).foldl step p).received = p.received := by
  cases hr : p.running with
  | false => rw [foldl_step_of_stopped hr]
  | true =>
      have hadvance : p.advance x = { p with running := false } := by
        cases x with
        | task i => cases hx
        | _ => exact congrArg p.enter hx
      rw [List.foldl_cons, step_of_running hr, hadvance, foldl_step_of_stopped rfl]

theorem balance_of_stopped (h : p.running = false) (next next' : List ConsoleStep) :
    p.balance next = p.balance next' := by
  unfold balance
  rw [h]
  rfl

theorem balance_step_of_not_task (hx : ∀ i, x ≠ .task i) :
    (p.step x).balance next = p.balance (x :: next) := by
  cases hr : p.running with
  | false => rw [step_of_stopped hr, balance_of_stopped hr]
  | true =>
      have hadvance : p.advance x = p.enter x.input := by
        cases x with
        | task i => exact absurd rfl (hx i)
        | _ => rfl
      rw [step_of_running hr, hadvance, balance, balance, typedCommands_cons]
      cases x.input <;> simp [enter, hr]

/-- Whatever task runs, its command passes from what waits to what was received. -/
theorem balance_step_task (i : Nat) :
    ((p.step (.task i)).balance next).Perm (p.balance (.task i :: next)) := by
  cases hr : p.running with
  | false => rw [step_of_stopped hr, balance_of_stopped hr]
  | true =>
      rw [step_of_running hr, advance, deliver]
      cases hw : p.waiting[i]? with
      | none => exact List.Perm.refl _
      | some command =>
          obtain ⟨hi, rfl⟩ := List.getElem?_eq_some_iff.mp hw
          refine List.Perm.append_right _ ?_
          show (p.received ++ [p.waiting[i]] ++ p.waiting.eraseIdx i).Perm (p.received ++ p.waiting)
          rw [List.append_assoc, List.singleton_append]
          exact List.Perm.append_left _ (List.getElem_cons_eraseIdx_perm hi)

theorem balance_step_task_zero : (p.step (.task 0)).balance next = p.balance (.task 0 :: next) := by
  cases hr : p.running with
  | false => rw [step_of_stopped hr, balance_of_stopped hr]
  | true =>
      rw [step_of_running hr, advance, deliver]
      cases hw : p.waiting with
      | nil => rfl
      | cons command rest => simp [balance, typedCommands_cons, ConsoleStep.input, hw]

/-- No command is lost to the ledger and none is added, whatever happens in whatever order. -/
theorem balance_steps (p : Ledger) (next : List ConsoleStep) :
    ((next.foldl step p).received ++ (next.foldl step p).waiting).Perm (p.balance next) := by
  -- At the end nothing is left to be typed, so the balance is what was received and what waits.
  induction next generalizing p with
  | nil => simp [balance, typedCommands]
  | cons x next ih =>
      refine (ih (p.step x)).trans ?_
      cases x with
      | task i => exact balance_step_task i
      | _ => exact List.Perm.of_eq (balance_step_of_not_task nofun)

theorem balance_steps_of_oldestFirst (p : Ledger) (next : List ConsoleStep)
    (h : OldestFirst next) :
    (next.foldl step p).received ++ (next.foldl step p).waiting = p.balance next := by
  induction next generalizing p with
  | nil => simp [balance, typedCommands]
  | cons x next ih =>
      refine (ih (p.step x) fun i hi => h i (List.mem_cons_of_mem _ hi)).trans ?_
      cases x with
      | task i =>
          obtain rfl := h i List.mem_cons_self
          exact balance_step_task_zero
      | _ => exact balance_step_of_not_task nofun

end balance

end Ledger

/-! ### The ledger of a console -/

namespace Console

/-- The console opened and run through some steps. -/
def play {σ : Type} (d : Device σ) (s : σ) (settings : Settings) (next : List ConsoleStep) :
    σ × Except Trouble Console :=
  match begin? d s settings with
  | (s, .error e) => (s, .error e)
  | (s, .ok c) => let r := steps d s c next; (r.1, .ok r.2)

section ledger

variable {σ : Type} {d : Device σ} {c : Console}

/-- The ledger of a console and the calls that its device has received. -/
def ledger (calls : List DeviceCall) (c : Console) : Ledger :=
  ⟨commandsOf calls, c.outbox, c.running⟩

theorem commandsOf_concat (calls : List DeviceCall) (call : DeviceCall) :
    commandsOf (calls ++ [call]) = commandsOf calls ++ call.command?.toList := by
  unfold commandsOf
  rw [List.filterMap_append]
  cases h : call.command? <;> simp [h]

theorem ledger_concat {call : DeviceCall} (h : call.command? = none) (calls : List DeviceCall)
    (c : Console) : ledger (calls ++ [call]) c = ledger calls c := by
  unfold ledger
  rw [commandsOf_concat, h, Option.toList_none, List.append_nil]

theorem ledger_react (calls : List DeviceCall) (c : Console) (r : Reaction) :
    ledger calls (c.react r) = ledger calls c := by
  unfold react
  cases r.event <;> rfl

theorem ledger_handleNext (calls : List DeviceCall) (c : Console) :
    ledger calls c.handleNext = ledger calls c := by
  unfold handleNext
  rcases c.system.handleNext with ⟨s, _ | event⟩ <;> rfl

theorem ledger_fetch (s : σ × List DeviceCall) (c : Console) :
    ledger (fetch d.recorded s c).1.2 (fetch d.recorded s c).2 = ledger s.2 c := by
  have hcalls : (d.recorded.fetchLog s).1.2 = s.2 ++ [.fetchLog] := rfl
  unfold fetch
  rcases hfetch : d.recorded.fetchLog s with ⟨t, e | entries⟩ <;> rw [hfetch] at hcalls
  · show ledger t.2 c = _
    rw [hcalls, ledger_concat rfl]
  · show ledger t.2 (c.react _) = _
    rw [hcalls, ledger_concat rfl, ledger_react]

theorem ledger_direct {call : DeviceCall} (hcall : call.command? = none)
    {done : Console → Console} (hdone : ∀ calls, ledger calls (done c) = ledger calls c)
    (s : σ × List DeviceCall) (name : String) :
    ledger (direct d.recorded s c name call done).1.2 (direct d.recorded s c name call done).2 =
      ledger s.2 c := by
  have hcalls : (d.recorded.ask s call).1.2 = s.2 ++ [call] := rfl
  unfold direct
  rcases hask : d.recorded.ask s call with ⟨t, e | reply⟩ <;> rw [hask] at hcalls
  · show ledger t.2 c = _
    rw [hcalls, ledger_concat hcall]
  · show ledger t.2 (done c) = _
    rw [hcalls, ledger_concat hcall, hdone]

theorem ledger_takeLine (s : σ × List DeviceCall) (c : Console) (text : String) :
    ledger (takeLine d.recorded s c text).1.2 (takeLine d.recorded s c text).2 =
      (ledger s.2 c).enter (.ofLine text) := by
  unfold takeLine
  cases ConsoleInput.ofLine text with
  | stop => exact ledger_direct rfl (fun _ => rfl) s _
  | pause => exact ledger_direct rfl (fun _ => rfl) s _
  | clear => exact ledger_direct rfl (fun calls => ledger_react calls c _) s _
  | reload => exact ledger_fetch s c
  | _ => rfl

theorem ledger_send (s : σ × List DeviceCall) (c : Console) (command : String) :
    ledger (send d.recorded s c command).1.2 (send d.recorded s c command).2 =
      { ledger s.2 c with received := commandsOf s.2 ++ [command] } := by
  have hcalls : commandsOf (d.recorded.sendCommand s command).1.2 = commandsOf s.2 ++ [command] :=
    commandsOf_concat s.2 (.sendCommand command)
  unfold send
  rcases hsend : d.recorded.sendCommand s command with ⟨t, e | entry⟩ <;> rw [hsend] at hcalls <;>
    exact congrArg (fun received => Ledger.mk received c.outbox c.running) hcalls

theorem ledger_runTask (s : σ × List DeviceCall) (c : Console) (i : Nat) :
    ledger (runTask d.recorded s c i).1.2 (runTask d.recorded s c i).2 =
      (ledger s.2 c).deliver i := by
  unfold runTask Ledger.deliver
  show _ = match c.outbox[i]? with | some _ => _ | none => _
  cases c.outbox[i]? with
  | some command => exact ledger_send s _ command
  | none => rfl

theorem step_of_stopped (h : c.running = false) (s : σ) (x : ConsoleStep) :
    step d s c x = (s, c) := if_pos (by rw [h]; rfl)

/-- A step of the console is a step of its ledger. -/
theorem ledger_step (s : σ × List DeviceCall) (c : Console) (x : ConsoleStep) :
    ledger (step d.recorded s c x).1.2 (step d.recorded s c x).2 = (ledger s.2 c).step x := by
  cases hr : c.running with
  | false =>
      rw [step_of_stopped hr, Ledger.step_of_stopped (p := ledger s.2 c) hr]
  | true =>
      rw [Ledger.step_of_running (p := ledger s.2 c) hr]
      unfold step
      rw [if_neg (by rw [hr]; simp)]
      cases x with
      | line text => exact ledger_takeLine s c text
      | message => exact ledger_handleNext s.2 c
      | task i => exact ledger_runTask s c i
      | _ => rfl

theorem ledger_steps (s : σ × List DeviceCall) (c : Console) (next : List ConsoleStep) :
    ledger (steps d.recorded s c next).1.2 (steps d.recorded s c next).2 =
      next.foldl Ledger.step (ledger s.2 c) := by
  unfold steps
  induction next generalizing s c with
  | nil => rfl
  | cons x next ih =>
      rw [List.foldl_cons, List.foldl_cons, ← ledger_step (d := d)]
      exact ih _ _

/-- A console is opened with an empty ledger, unless the address of the stream is refused. -/
theorem ledger_begin? (s : σ) (settings : Settings) :
    match begin? d.recorded (s, []) settings with
    | (t, .ok c) => StreamAddress.isValid settings.stream.url = true ∧ ledger t.2 c = ⟨[], [], true⟩
    | (t, .error _) => StreamAddress.isValid settings.stream.url = false ∧ t.2 = [] := by
  cases hvalid : StreamAddress.isValid settings.stream.url with
  | false => simp [begin?, hvalid]
  | true =>
      simp only [begin?, hvalid, Bool.not_true, Bool.false_eq_true, if_false, true_and]
      exact ledger_fetch (d := d) (s, []) _

/-- **The way of typed commands.**  A console whose stream address is accepted runs, and at every
time, whatever has happened in whatever order, the commands that the device has received and those
whose tasks have not run are together the commands typed so far, each as often as it was typed,
and in the order of typing if tasks run oldest first.  What the device receives is the trimmed text
of a typed line and never starts with a slash.  With an address that is refused nothing is
received. -/
theorem commands_of_play (d : Device σ) (s : σ) (settings : Settings) (next : List ConsoleStep) :
    let played := play d.recorded (s, []) settings next
    let received := commandsOf played.1.2
    match played.2 with
    | .error _ => StreamAddress.isValid settings.stream.url = false ∧ received = []
    | .ok c =>
      StreamAddress.isValid settings.stream.url = true ∧
      (received ++ c.outbox).Perm (typedCommands next) ∧
      (OldestFirst next → received ++ c.outbox = typedCommands next) ∧
      ∀ command ∈ received, ∃ line, .line line ∈ next ∧
        ConsoleInput.ofLine line = .command command ∧
        command = Text.trimString line ∧ command.toList.head? ≠ some '/' := by
  have hbegin := ledger_begin? (d := d) s settings
  unfold play
  rcases hopened : begin? d.recorded (s, []) settings with ⟨t, e | c⟩ <;> rw [hopened] at hbegin
  · obtain ⟨hrefused, hcalls⟩ := hbegin
    exact ⟨hrefused, congrArg commandsOf hcalls⟩
  obtain ⟨hvalid, hempty⟩ := hbegin
  have hsteps := ledger_steps (d := d) t c next
  rw [hempty] at hsteps
  have hperm := Ledger.balance_steps ⟨[], [], true⟩ next
  rw [← hsteps] at hperm
  refine ⟨hvalid, hperm, fun holdest => ?_, fun command hcommand => ?_⟩
  · have hequal := Ledger.balance_steps_of_oldestFirst ⟨[], [], true⟩ next holdest
    rw [← hsteps] at hequal
    exact hequal
  · have htyped : command ∈ typedCommands next :=
      hperm.mem_iff.mp (List.mem_append_left _ hcommand)
    obtain ⟨line, hline, htext⟩ := exists_line_of_mem_typedCommands htyped
    exact ⟨line, hline, htext, ConsoleInput.ofLine_eq_command htext⟩

/-- Commands may reach the device in another order than they were typed, as tasks run in any order,
or not at all, as an address that is refused ends the console before a line is read. -/
theorem commands_swapped_or_refused :
    let plain : Device Unit := ⟨fun s call => (s, .ok call.plainReply)⟩
    let received := fun url next =>
      commandsOf (play plain.recorded ((), []) { stream := { url } } next).1.2
    let next := [ConsoleStep.line "G0 X1", .line "G0 X2", .task 1, .task 0, .endOfInput]
    typedCommands next = ["G0 X1", "G0 X2"] ∧
    received "ws://localhost:8000/ws" next = ["G0 X2", "G0 X1"] ∧
    received "http://nope" next = [] := by
  decide +kernel

/-- **Commands are lost** if the console is left before their tasks have run: whatever is to come
after that, the device receives no command beyond those that it had received by then. -/
theorem received_of_play_quit (d : Device σ) (s : σ) (settings : Settings)
    (before next : List ConsoleStep) {x : ConsoleStep} (hx : x.input = .quit) :
    commandsOf (play d.recorded (s, []) settings (before ++ x :: next)).1.2 =
      commandsOf (play d.recorded (s, []) settings before).1.2 := by
  unfold play
  rcases begin? d.recorded (s, []) settings with ⟨t, e | c⟩
  · rfl
  · have hbefore := congrArg Ledger.received (ledger_steps (d := d) t c before)
    have hall := congrArg Ledger.received (ledger_steps (d := d) t c (before ++ x :: next))
    rw [List.foldl_append, Ledger.received_of_quit hx, ← hbefore] at hall
    exact hall

end ledger

end Console
end PenPlotter
