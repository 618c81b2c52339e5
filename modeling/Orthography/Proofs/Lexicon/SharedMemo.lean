import Mathlib.Algebra.Ring.Nat
import Mathlib.Data.List.Forall2
import Orthography.Proofs.Lexicon.Steps

/-! Workers that share one memo. Between two steps of a worker any others may step, and none
of them can tell. -/
namespace Orthography.Lexicon

structure Worker (α : Type) where
  waiting : List (Steps α)
  current : Option (Steps α)
  results : List (Except Fault α)

/-- One step of a worker: it begins a computation, carries it on by one step, or returns its
result. Without any work it stutters. -/
def Worker.advance {α : Type} (inner : Inquiry (Except Fault)) (memo : Memo)
    (worker : Worker α) : Worker α × Memo :=
  match worker.current with
  | none =>
    match worker.waiting with
    | [] => (worker,memo)
    | first :: rest => (⟨rest,some first,worker.results⟩,memo)
  | some (.done result) => (⟨worker.waiting,none,worker.results ++ [result]⟩,memo)
  | some steps =>
    let stepped := steps.advance inner memo
    (⟨worker.waiting,some stepped.1,worker.results⟩,stepped.2)

structure Shared (ι α : Type) where
  memo : Memo
  workers : ι → Worker α

namespace Shared

variable {ι α : Type} [DecidableEq ι]

def advance (inner : Inquiry (Except Fault)) (chosen : ι) (shared : Shared ι α) : Shared ι α :=
  let stepped := (shared.workers chosen).advance inner shared.memo
  ⟨stepped.2,fun i => if i = chosen then stepped.1 else shared.workers i⟩

/-- The steps of a schedule, which names the worker of each. -/
def execute (inner : Inquiry (Except Fault)) : List ι → Shared ι α → Shared ι α
  | [],shared => shared
  | chosen :: schedule,shared => execute inner schedule (advance inner chosen shared)

def resume (memo : Memo) (tasks : ι → List (Steps α)) : Shared ι α :=
  ⟨memo,fun i => ⟨tasks i,none,[]⟩⟩

def start (tasks : ι → List (Steps α)) : Shared ι α :=
  ⟨Memo.empty,fun i => ⟨tasks i,none,[]⟩⟩

end Shared

namespace Worker

variable {α : Type} {inner : Inquiry (Except Fault)} {memo : Memo}

/-- The results so far are the first of those expected, and the computations that are left
are faithful to the others. -/
def Serves (inner : Inquiry (Except Fault)) (expected : List (Except Fault α))
    (worker : Worker α) : Prop :=
  ∃ now later, expected = worker.results ++ now ++ later ∧
    List.Forall₂ (Steps.Faithful inner) now worker.current.toList ∧
    List.Forall₂ (Steps.Faithful inner) later worker.waiting

theorem advance_serves {expected : List (Except Fault α)} {worker : Worker α}
    (sound : memo.Sound inner) (serves : worker.Serves inner expected) :
    (worker.advance inner memo).1.Serves inner expected ∧
      (worker.advance inner memo).2.Sound inner := by
  obtain ⟨now,later,rfl,current,waiting⟩ := serves
  rcases worker with ⟨tasks,_ | steps,results⟩
  · cases current
    cases waiting with
    | nil => exact ⟨⟨[],[],rfl,.nil,.nil⟩,sound⟩
    | @cons result first later rest faithful waiting =>
      exact ⟨⟨[result],later,by simp [advance],.cons faithful .nil,waiting⟩,sound⟩
  · obtain _ | ⟨faithful,⟨⟩⟩ := current
    have stepped := faithful.advance sound
    cases steps with
    | done own =>
      obtain rfl : own = _ := faithful
      exact ⟨⟨[],later,by simp [advance],.nil,waiting⟩,sound⟩
    | lookUp | inquire | enter =>
      exact ⟨⟨[_],later,rfl,.cons stepped.1 .nil,waiting⟩,stepped.2⟩

/-- So many steps at most are left: one to begin each computation that waits, its own, and one
to return. -/
def Left (inner : Inquiry (Except Fault)) (bound : Nat) (worker : Worker α) : Prop :=
  ∃ now later : List Nat, (now.map (· + 1)).sum + (later.map (· + 2)).sum ≤ bound ∧
    List.Forall₂ (Steps.Within inner) now worker.current.toList ∧
    List.Forall₂ (Steps.Within inner) later worker.waiting

theorem advance_left {bound : Nat} {worker : Worker α} (left : worker.Left inner (bound + 1)) :
    (worker.advance inner memo).1.Left inner bound := by
  obtain ⟨now,later,total,current,waiting⟩ := left
  rcases worker with ⟨tasks,_ | steps,results⟩
  · cases current
    cases waiting with
    | nil => exact ⟨[],[],Nat.zero_le _,.nil,.nil⟩
    | @cons own first later rest within waiting =>
      refine ⟨[own],later,?_,.cons within .nil,waiting⟩
      simp at total ⊢
      omega
  · obtain _ | ⟨within,⟨⟩⟩ := current
    cases within with
    | done => exact ⟨[],later,by simp at total ⊢; omega,.nil,waiting⟩
    | lookUp next => exact ⟨[_],later,by simp at total ⊢; omega,.cons (next _) .nil,waiting⟩
    | inquire next => exact ⟨[_],later,by simp at total ⊢; omega,.cons next .nil,waiting⟩
    | enter next => exact ⟨[_],later,by simp at total ⊢; omega,.cons next .nil,waiting⟩

/-- With no step left all results are there. -/
theorem Serves.results_eq {expected : List (Except Fault α)} {worker : Worker α}
    (serves : worker.Serves inner expected) (left : worker.Left inner 0) :
    worker.results = expected := by
  obtain ⟨now,later,rfl,current,waiting⟩ := serves
  obtain ⟨own,others,total,currentLeft,waitingLeft⟩ := left
  have idle : own = [] := by
    cases own <;> simp at total ⊢
  have nothing : others = [] := by
    cases others <;> simp at total ⊢
  subst idle nothing
  rw [List.forall₂_nil_left_iff] at currentLeft waitingLeft
  rw [currentLeft,List.forall₂_nil_right_iff] at current
  rw [waitingLeft,List.forall₂_nil_right_iff] at waiting
  simp [current,waiting]

end Worker

namespace Shared

variable {ι α : Type} {inner : Inquiry (Except Fault)}

structure Invariant (inner : Inquiry (Except Fault)) (expected : ι → List (Except Fault α))
    (shared : Shared ι α) : Prop where
  sound : shared.memo.Sound inner
  serves : ∀ i, (shared.workers i).Serves inner (expected i)

theorem resume_invariant {memo : Memo} (sound : memo.Sound inner) {tasks : ι → List (Steps α)}
    {expected : ι → List (Except Fault α)}
    (faithful : ∀ i, List.Forall₂ (Steps.Faithful inner) (expected i) (tasks i)) :
    Invariant inner expected (resume memo tasks) where
  sound := sound
  serves i := ⟨[],expected i,rfl,.nil,faithful i⟩

variable [DecidableEq ι]

theorem advance_invariant {expected : ι → List (Except Fault α)} {shared : Shared ι α}
    (valid : Invariant inner expected shared) (chosen : ι) :
    Invariant inner expected (advance inner chosen shared) := by
  have stepped := Worker.advance_serves valid.sound (valid.serves chosen)
  refine ⟨stepped.2,fun i => ?_⟩
  by_cases same : i = chosen
  · subst same
    simpa [advance] using stepped.1
  · simpa [advance,same] using valid.serves i

/-- Any interleaving keeps the memo sound and the results right. -/
theorem execute_invariant {expected : ι → List (Except Fault α)} {shared : Shared ι α}
    (valid : Invariant inner expected shared) (schedule : List ι) :
    Invariant inner expected (execute inner schedule shared) := by
  induction schedule generalizing shared with
  | nil => exact valid
  | cons chosen schedule ih => exact ih (advance_invariant valid chosen)

/-- A worker has one step less to go whenever it is chosen. -/
theorem execute_left {shared : Shared ι α} {i : ι} {bound : Nat} (schedule : List ι)
    (left : (shared.workers i).Left inner (bound + schedule.count i)) :
    ((execute inner schedule shared).workers i).Left inner bound := by
  induction schedule generalizing shared with
  | nil => exact left
  | cons chosen schedule ih =>
    apply ih
    by_cases same : i = chosen
    · subst same
      rw [List.count_cons_self,← Nat.add_assoc] at left
      simpa [advance] using Worker.advance_left left
    · rw [List.count_cons_of_ne (Ne.symm same)] at left
      simpa [advance,same] using left

/-- Whatever the interleaving, a sound memo stays sound and the results of each worker are those
expected, in order and as far as it has come; a worker that was given steps enough has them
all. -/
theorem execute_resume {memo : Memo} (sound : memo.Sound inner) {tasks : ι → List (Steps α)}
    {expected : ι → List (Except Fault α)}
    (faithful : ∀ i, List.Forall₂ (Steps.Faithful inner) (expected i) (tasks i))
    (schedule : List ι) :
    let final := execute inner schedule (resume memo tasks)
    final.memo.Sound inner ∧ (∀ i, (final.workers i).results <+: expected i) ∧
      ∀ i bounds, List.Forall₂ (Steps.Within inner) bounds (tasks i) →
        (bounds.map (· + 2)).sum ≤ schedule.count i → (final.workers i).results = expected i := by
  have valid := execute_invariant (resume_invariant sound faithful) schedule
  refine ⟨valid.sound,fun i => ?_,fun i bounds within enough => ?_⟩
  · obtain ⟨now,later,eq,_,_⟩ := valid.serves i
    rw [eq,List.append_assoc]
    exact List.prefix_append ..
  · apply (valid.serves i).results_eq
    apply execute_left
    exact ⟨[],bounds,by simpa using enough,.nil,within⟩

/-- The same from an empty memo, which is sound. -/
theorem execute_start {tasks : ι → List (Steps α)} {expected : ι → List (Except Fault α)}
    (faithful : ∀ i, List.Forall₂ (Steps.Faithful inner) (expected i) (tasks i))
    (schedule : List ι) :
    let final := execute inner schedule (start tasks)
    final.memo.Sound inner ∧ (∀ i, (final.workers i).results <+: expected i) ∧
      ∀ i bounds, List.Forall₂ (Steps.Within inner) bounds (tasks i) →
        (bounds.map (· + 2)).sum ≤ schedule.count i → (final.workers i).results = expected i :=
  execute_resume (Memo.sound_empty inner) faithful schedule

end Shared

inductive Call where
  | word (language text : String)
  | phrase (language text : String)
  deriving DecidableEq

namespace Call

def answer {m : Type → Type} [Monad m] (ask : Inquiry m) : Call → m Bool
  | word language text => ask language text
  | phrase language text => ask.phrase language text

def words : Call → Nat
  | word _ _ => 1
  | phrase _ text => (Text.pieces text).length

theorem answer_related {m n : Type → Type} [Monad m] [Monad n] (sim : Simulation m n)
    {ask : Inquiry m} {other : Inquiry n}
    (asked : ∀ language word, sim.Rel (ask language word) (other language word)) (call : Call) :
    sim.Rel (call.answer ask) (call.answer other) := by
  cases call with
  | word language text => exact asked language text
  | phrase language text => exact sim.phrase (asked language) text

/-- A call that no other worker interrupts is the one on a memo that is not shared. -/
theorem run_answer (inner : Inquiry (Except Fault)) (call : Call) (memo : Memo) :
    (call.answer Steps.ask).run inner memo = call.answer (Memo.ask inner) memo :=
  call.answer_related (Steps.running inner) (Steps.running_ask inner) memo

theorem faithful_answer (inner : Inquiry (Except Fault)) (call : Call) :
    (call.answer Steps.ask).Faithful inner (call.answer inner) :=
  call.answer_related (Steps.faithful inner) (Steps.faithful_ask inner)

theorem within_answer (inner : Inquiry (Except Fault)) (call : Call) :
    Steps.Within inner (3 * call.words) (call.answer Steps.ask) := by
  cases call with
  | word language text => exact Steps.within_ask inner language text
  | phrase language text => exact Steps.within_anyUnknown inner language (Text.pieces text)

end Call

/-- Without interruption the steps of a call are the call on a memo of its own. Whatever the
interleaving of workers that share a memo, what the memo holds are inner answers, and the
results of each worker are the inner answers to its calls, in order and as far as it has come;
a worker that was given steps enough has them all. -/
theorem execute_results {ι : Type} [DecidableEq ι] (inner : Inquiry (Except Fault))
    (calls : ι → List Call) (schedule : List ι) :
    let final := Shared.execute inner schedule
      (.start fun i => (calls i).map (Call.answer Steps.ask))
    (∀ call memo, (Call.answer Steps.ask call).run inner memo =
      call.answer (Memo.ask inner) memo) ∧
    (∀ language word unknown, final.memo.verdict? language word = some unknown →
      inner language word = .ok unknown) ∧
    (∀ i, (final.workers i).results <+: (calls i).map (Call.answer inner)) ∧
    (∀ i, ((calls i).map fun call => 3 * call.words + 2).sum ≤ schedule.count i →
      (final.workers i).results = (calls i).map (Call.answer inner)) := by
  intro final
  have faithful : ∀ i, List.Forall₂ (Steps.Faithful inner) ((calls i).map (Call.answer inner))
      ((calls i).map (Call.answer Steps.ask)) := by
    intro i
    rw [List.forall₂_map_left_iff,List.forall₂_map_right_iff,List.forall₂_same]
    exact fun call _ => call.faithful_answer inner
  obtain ⟨sound,begun,all⟩ := Shared.execute_start faithful schedule
  refine ⟨Call.run_answer inner,sound,begun,fun i enough => ?_⟩
  apply all i ((calls i).map fun call => 3 * call.words)
  · rw [List.forall₂_map_left_iff,List.forall₂_map_right_iff,List.forall₂_same]
    exact fun call _ => call.within_answer inner
  · simpa [Function.comp_def] using enough

end Orthography.Lexicon
