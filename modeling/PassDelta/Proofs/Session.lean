import PassDelta.Memory
import PassDelta.Session
/-!
# What work leaves in a session

Every primitive of a session is an equation: its answer, the world it leaves and the actions it adds to the
trace. Larger pieces of work are described by the same three, so their own equations follow by rewriting.
-/

namespace PassDelta

variable {σ α β : Type}

section Except
variable {ε : Type} {x : Except ε α} {b : β}

theorem bind_eq_ok {f : α → Except ε β} : x >>= f = .ok b ↔ ∃ a, x = .ok a ∧ f a = .ok b := by
  cases x <;> simp [bind, Except.bind]

theorem map_eq_ok {f : α → β} : f <$> x = .ok b ↔ ∃ a, x = .ok a ∧ f a = b := by
  cases x <;> simp [Functor.map, Except.map]

end Except

/-- The session after work that left the world `w`, did the actions `t` and printed `n` blocks. -/
def Session.after (s : Session σ) (w : σ) (t : List Action) (n : Nat) : Session σ :=
  ⟨w, s.trace ++ t, s.blocks + n⟩

namespace Session

@[simp] theorem after_world (s : Session σ) (w : σ) (t : List Action) (n : Nat) : (s.after w t n).world = w := rfl
@[simp] theorem after_trace (s : Session σ) (w : σ) (t : List Action) (n : Nat) :
    (s.after w t n).trace = s.trace ++ t := rfl
@[simp] theorem after_blocks (s : Session σ) (w : σ) (t : List Action) (n : Nat) :
    (s.after w t n).blocks = s.blocks + n := rfl
@[simp] theorem start_world (w : σ) : (Session.start w).world = w := rfl
@[simp] theorem start_trace (w : σ) : (Session.start w).trace = [] := rfl

theorem after_nil (s : Session σ) : s.after s.world [] 0 = s := by
  simp [after]

@[simp] theorem after_after (s : Session σ) (v w : σ) (t u : List Action) (m n : Nat) :
    (s.after v t m).after w u n = s.after w (t ++ u) (m + n) := by
  simp [after, Nat.add_assoc]

end Session

namespace Host

def taken (h : Host σ) (n : Nat) : Except IoError Unit :=
  match h.console n with
  | .refused e => .error e
  | _ => .ok ()

def offered (h : Host σ) (n : Nat) (text : String) : List Action :=
  match h.console n with
  | .shown => [.printed text]
  | _ => []

def said (h : Host σ) (n : Nat) (text : String) : List Action :=
  match h.console n with
  | .shown => [.printed text]
  | .dropped => []
  | .refused e => [.logged .debug ("console write failed: " ++ e.message)]

end Host

namespace Work

theorem pure_run (a : α) (s : Session σ) : (pure a : Work σ α).run s = (a, s) := rfl

theorem bind_run (x : Work σ α) (f : α → Work σ β) (s : Session σ) :
    (x >>= f).run s = (f (x.run s).1).run (x.run s).2 := rfl

theorem log_run (level : Level) (text : String) (s : Session σ) :
    (log level text).run s = ((), s.after s.world [.logged level text] 0) := rfl

theorem record_run (event : Event) (s : Session σ) :
    (record event).run s = ((), s.after s.world [.recorded event] 0) := rfl

theorem flush_run (s : Session σ) : (flush : Work σ Unit).run s = ((), s.after s.world [.flushed] 0) := rfl

theorem offer_run (h : Host σ) (text : String) (s : Session σ) :
    (offer h text).run s = (h.taken s.blocks, s.after s.world (h.offered s.blocks text) 1) := by
  have hoffer : (offer h text).run s = (match h.console s.blocks with
      | .shown => do note (.printed text); return .ok ()
      | .dropped => return .ok ()
      | .refused e => return .error e : Work σ (Except IoError Unit)).run { s with blocks := s.blocks + 1 } := rfl
  rw [hoffer]
  unfold Host.taken Host.offered
  cases h.console s.blocks with
  | shown => rfl
  | dropped => rw [Session.after, List.append_nil, pure_run]
  | refused e => rw [Session.after, List.append_nil, pure_run]

theorem print_run (h : Host σ) (text : String) (s : Session σ) :
    (print h text).run s = ((), s.after s.world (h.said s.blocks text) 1) := by
  unfold print Host.said
  rw [bind_run, offer_run, Host.taken, Host.offered]
  cases h.console s.blocks with
  | shown => rfl
  | dropped => rfl
  | refused e => rw [log_run, Session.after_after]; rfl

theorem isPresent_run (h : Host σ) (path : Path) (s : Session σ) :
    (isPresent h path).run s = (h.isPresent s.world path, s.after s.world [.asked path] 0) := rfl

theorem createDir_run (h : Host σ) (path : Path) (s : Session σ) :
    (createDir h path).run s =
      ((h.createDir s.world path).1, s.after (h.createDir s.world path).2 [.madeDir path] 0) := rfl

theorem read_run (h : Host σ) (path : Path) (s : Session σ) :
    (read h path).run s = (h.read s.world path, s.after s.world [.fetched path] 0) := rfl

theorem write_run (h : Host σ) (path : Path) (contents : Bytes) (s : Session σ) :
    (write h path contents).run s = ((h.write s.world path contents).1,
      s.after (h.write s.world path contents).2 [.wrote path contents.length] 0) := rfl

theorem execute_run (h : Host σ) (command : Command) (s : Session σ) :
    (execute h command).run s =
      ((h.execute s.world command).1, s.after (h.execute s.world command).2 [.ran command] 0) := rfl

end Work

namespace Action

/-- Whether an action is more than talk: log lines and console text are left out. -/
def isDeed : Action → Bool
  | logged .. => false
  | printed _ => false
  | complained _ => false
  | _ => true

def changesFiles : Action → Bool
  | madeDir _ => true
  | wrote .. => true
  | _ => false

def command? : Action → Option Command
  | ran c => some c
  | _ => none

def isNotice : Action → Bool
  | recorded _ => true
  | flushed => true
  | _ => false

def event? : Action → Option Event
  | recorded e => some e
  | _ => none

end Action

def deeds (t : List Action) : List Action := t.filter Action.isDeed

def changes (t : List Action) : List Action := t.filter Action.changesFiles

def commands (t : List Action) : List Command := t.filterMap Action.command?

def notices (t : List Action) : List Action := t.filter Action.isNotice

def events (t : List Action) : List Event := t.filterMap Action.event?

@[simp] theorem deeds_append (t u : List Action) : deeds (t ++ u) = deeds t ++ deeds u := List.filter_append ..

@[simp] theorem deeds_nil : deeds [] = [] := rfl

@[simp] theorem deeds_cons (a : Action) (t : List Action) :
    deeds (a :: t) = if a.isDeed then a :: deeds t else deeds t := List.filter_cons ..

@[simp] theorem deeds_said (h : Host σ) (n : Nat) (text : String) : deeds (h.said n text) = [] := by
  unfold Host.said
  cases h.console n <;> rfl

@[simp] theorem deeds_offered (h : Host σ) (n : Nat) (text : String) : deeds (h.offered n text) = [] := by
  unfold Host.offered
  cases h.console n <;> rfl

@[simp] theorem changes_append (t u : List Action) : changes (t ++ u) = changes t ++ changes u := List.filter_append ..

@[simp] theorem changes_nil : changes [] = [] := rfl

@[simp] theorem changes_cons (a : Action) (t : List Action) :
    changes (a :: t) = if a.changesFiles then a :: changes t else changes t := List.filter_cons ..

/-- Talk changes no file, so the deeds tell all changes. -/
theorem changes_deeds (t : List Action) : changes (deeds t) = changes t := by
  rw [changes, deeds, List.filter_filter]
  congr 1
  funext a
  cases a <;> rfl

@[simp] theorem commands_append (t u : List Action) : commands (t ++ u) = commands t ++ commands u :=
  List.filterMap_append ..

@[simp] theorem commands_nil : commands [] = [] := rfl

@[simp] theorem commands_cons (a : Action) (t : List Action) :
    commands (a :: t) = a.command?.toList ++ commands t := by
  cases h : a.command? with
  | none => simp [commands, h]
  | some c => simp [commands, h]

/-- Talk runs no program, so the deeds tell all commands. -/
theorem commands_deeds (t : List Action) : commands (deeds t) = commands t := by
  rw [commands, deeds, List.filterMap_filter]
  congr 1
  funext a
  cases a <;> rfl

@[simp] theorem notices_append (t u : List Action) : notices (t ++ u) = notices t ++ notices u := List.filter_append ..

@[simp] theorem notices_nil : notices [] = [] := rfl

@[simp] theorem notices_cons (a : Action) (t : List Action) :
    notices (a :: t) = if a.isNotice then a :: notices t else notices t := List.filter_cons ..

@[simp] theorem notices_recorded (es : List Event) : notices (es.map .recorded) = es.map .recorded := by
  rw [notices, List.filter_eq_self]
  intro a ha
  obtain ⟨e, -, rfl⟩ := List.mem_map.mp ha
  rfl

/-- Talk does not reach the observer. -/
theorem notices_deeds (t : List Action) : notices (deeds t) = notices t := by
  rw [notices, deeds, List.filter_filter]
  congr 1
  funext a
  cases a <;> rfl

@[simp] theorem events_append (t u : List Action) : events (t ++ u) = events t ++ events u :=
  List.filterMap_append ..

@[simp] theorem events_recorded (es : List Event) : events (es.map .recorded) = es := by
  rw [events, List.filterMap_map]
  exact List.filterMap_some

theorem events_notices (t : List Action) : events (notices t) = events t := by
  rw [events, notices, List.filterMap_filter]
  congr 1
  funext a
  cases a <;> rfl

end PassDelta
