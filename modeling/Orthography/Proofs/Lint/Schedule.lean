import Mathlib.Data.List.FinRange
import Orthography.Proofs.Lexicon.SharedMemo
import Orthography.Proofs.Lint.Alone

/-! Runs that share what is remembered. Workers take the files among them and step in any order,
on a memo that earlier runs left; the result is that of each file alone, joined in the order of
the files. -/
namespace Orthography.Lint

open Lexicon (Memo Shared Steps)

def join (results : List (Except Lexicon.Fault Report)) : Except Lexicon.Fault Report :=
  results.foldlM (fun combined result => do pure (combined.merge (← result))) Report.empty

theorem foldlM_merge_ok (report : Report) (reports : List Report) :
    (reports.map Except.ok).foldlM (m := Except Lexicon.Fault)
      (fun combined result => do pure (combined.merge (← result))) report =
        .ok (reports.foldl Report.merge report) := by
  induction reports generalizing report with
  | nil => rfl
  | cons first rest ih => exact ih (report.merge first)

/-- How workers go about files: the files that each of them takes, one after the other, and whose
turn each step is. -/
structure Plan (files : Nat) where
  jobs : Nat
  share : Fin jobs → List (Fin files)
  turns : List (Fin jobs)

namespace Plan

def Complete {files : Nat} (plan : Plan files) : Prop :=
  ((List.finRange plan.jobs).flatMap plan.share).Perm (List.finRange files)

section Execution

variable (inner : Inquiry (Except Lexicon.Fault)) (policy : Policy) (memo : Memo)
  (files : List Input)

def execute (plan : Plan files.length) : Shared (Fin plan.jobs) Report :=
  Shared.execute inner plan.turns <| .resume memo fun worker =>
    (plan.share worker).map fun i => checkFile Steps.ask policy (files.get i)

def Returned (plan : Plan files.length) (i : Fin files.length)
    (result : Except Lexicon.Fault Report) : Prop :=
  ∃ (worker : Fin plan.jobs) (place : Nat), (plan.share worker)[place]? = some i ∧
    ((plan.execute inner policy memo files).workers worker).results[place]? = some result

variable {inner memo} (sound : memo.Sound inner)

include sound

theorem execute_spec (plan : Plan files.length) :
    let final := plan.execute inner policy memo files
    let expected := fun worker =>
      (plan.share worker).map fun i => checkFile inner policy (files.get i)
    final.memo.Sound inner ∧ (∀ worker, (final.workers worker).results <+: expected worker) ∧
      ∀ worker bounds, List.Forall₂ (Steps.Within inner) bounds
          ((plan.share worker).map fun i => checkFile Steps.ask policy (files.get i)) →
        (bounds.map (· + 2)).sum ≤ plan.turns.count worker →
        (final.workers worker).results = expected worker := by
  apply Shared.execute_resume sound
  intro worker
  rw [List.forall₂_map_left_iff,List.forall₂_map_right_iff,List.forall₂_same]
  exact fun i _ => (Steps.faithful inner).checkFile (Steps.faithful_ask inner policy.language) _

variable {policy files} in
/-- What is returned for a file is the result of the file alone. -/
theorem Returned.eq_checkFile {plan : Plan files.length} {i : Fin files.length}
    {result : Except Lexicon.Fault Report}
    (returned : plan.Returned inner policy memo files i result) :
    result = checkFile inner policy (files.get i) := by
  obtain ⟨worker,place,taken,given⟩ := returned
  obtain ⟨_,begun,_⟩ := execute_spec policy files sound plan
  obtain ⟨later,whole⟩ := begun worker
  -- the results so far are the first of those expected, each in its place
  have inside : place < _ := (List.getElem?_eq_some_iff.mp given).1
  have expected : (_ ++ later)[place]? = _ := List.getElem?_append_left inside
  rw [whole,given,List.getElem?_map,taken] at expected
  exact (Option.some.inj expected).symm

/-- Workers that have enough turns return a result for every file that they took. -/
theorem exists_enough (jobs : Nat) (share : Fin jobs → List (Fin files.length)) :
    ∃ enough : Fin jobs → Nat, ∀ turns : List (Fin jobs),
      (∀ worker, enough worker ≤ turns.count worker) → ∀ worker, ∀ i ∈ share worker,
        ∃ result, (Plan.mk jobs share turns).Returned inner policy memo files i result := by
  choose bound within using fun i : Fin files.length =>
    Steps.exists_within inner (checkFile Steps.ask policy (files.get i))
  refine ⟨fun worker => ((share worker).map fun i => bound i + 2).sum,
    fun turns enough worker i member => ?_⟩
  obtain ⟨_,_,all⟩ := execute_spec policy files sound ⟨jobs,share,turns⟩
  have returned := all worker ((share worker).map bound)
    (by
      rw [List.forall₂_map_left_iff,List.forall₂_map_right_iff,List.forall₂_same]
      exact fun i _ => within i)
    (by simpa [Function.comp_def] using enough worker)
  obtain ⟨place,taken⟩ := List.mem_iff_getElem?.mp member
  exact ⟨_,worker,place,taken,by rw [returned,List.getElem?_map,taken]; rfl⟩

/-- Where every file is taken once, workers that have enough turns return a result for each. -/
theorem exists_returned {jobs : Nat} {share : Fin jobs → List (Fin files.length)}
    (complete : ((List.finRange jobs).flatMap share).Perm (List.finRange _)) :
    ∃ enough : Fin jobs → Nat, ∀ turns : List (Fin jobs),
      (∀ worker, enough worker ≤ turns.count worker) → ∃ results,
        List.Forall₂ ((Plan.mk jobs share turns).Returned inner policy memo files)
          (List.finRange _) results := by
  obtain ⟨enough,returns⟩ := exists_enough policy files sound jobs share
  refine ⟨enough,fun turns turned => ?_⟩
  have each : ∀ i, ∃ result, (Plan.mk jobs share turns).Returned inner policy memo files i result := by
    intro i
    obtain ⟨worker,_,taken⟩ := List.mem_flatMap.mp (complete.mem_iff.mpr (List.mem_finRange i))
    exact returns turns turned worker i taken
  choose result returned using each
  refine ⟨(List.finRange _).map result,?_⟩
  rw [List.forall₂_map_right_iff,List.forall₂_same]
  exact fun i _ => returned i

end Execution

/-- Results for all files in their order are joined to the report that each file alone has a part
in. Nothing is left of the plan. -/
theorem join_returned {lexicon : Lexicon} {policy : Policy} {memo : Memo}
    (known : lexicon.knows policy.language = true) (sound : memo.Sound lexicon.isUnknown)
    {files : List Input} {plan : Plan files.length} {results : List (Except Lexicon.Fault Report)}
    (returned : List.Forall₂ (plan.Returned lexicon.isUnknown policy memo files) (List.finRange _)
      results) :
    join results = .ok ((files.map (reportAlone lexicon policy)).foldl Report.merge Report.empty) := by
  have alone : List.Forall₂ Eq
      ((List.finRange _).map fun i => Except.ok (reportAlone lexicon policy (files.get i)))
      results := by
    rw [List.forall₂_map_left_iff]
    refine returned.imp fun i result given => ?_
    rw [given.eq_checkFile sound,checkFile_alone known]
  rw [List.forall₂_eq_eq_eq] at alone
  have inOrder : results = (files.map (reportAlone lexicon policy)).map Except.ok := by
    calc
      results = (((List.finRange _).map files.get).map (reportAlone lexicon policy)).map
          Except.ok := by
        simp only [← alone,List.map_map,Function.comp_def]
      _ = _ := by rw [List.map_get_finRange]
  rw [inOrder,join,foldlM_merge_ok]

end Plan

/-- A run on files with a memo that is left from before: its result, and the memo that it leaves.
It goes file by file; or workers, so many as the settings say, any number if they say none, share
the files, and their results are joined in the order of the files. That workers could be started is
taken for granted here; where they cannot, no file is looked at. -/
inductive Lints (inner : Inquiry (Except Lexicon.Fault)) (settings : Settings) (policy : Policy)
    (memo : Memo) (inputs : List Input) : Except Lexicon.Fault Report → Memo → Prop where
  | inTurn : settings.engine.parallel = false →
      checkAll (Memo.ask inner) settings policy inputs memo = (result,later) →
      Lints inner settings policy memo inputs result later
  | together (plan : Plan (kept settings.exclude inputs).length) :
      settings.engine.parallel = true →
      (0 < settings.engine.jobs → plan.jobs = settings.engine.jobs) → plan.Complete →
      List.Forall₂ (plan.Returned inner policy memo (kept settings.exclude inputs))
        (List.finRange (kept settings.exclude inputs).length) results →
      Lints inner settings policy memo inputs (join results)
        (plan.execute inner policy memo (kept settings.exclude inputs)).memo

/-- What may be remembered: nothing, or what a run leaves that began with such a memo. -/
inductive Remembered (inner : Inquiry (Except Lexicon.Fault)) (policy : Policy) : Memo → Prop where
  | nothing : Remembered inner policy Memo.empty
  | after {given : List Input} : Remembered inner policy memo →
      Lints inner settings policy memo given result later → Remembered inner policy later

theorem Lints.sound {inner : Inquiry (Except Lexicon.Fault)} {settings : Settings} {policy : Policy}
    {memo later : Memo} {inputs : List Input} {result : Except Lexicon.Fault Report}
    (lints : Lints inner settings policy memo inputs result later) (sound : memo.Sound inner) :
    later.Sound inner := by
  cases lints with
  | inTurn _ ran =>
    have recalled := (Lexicon.recalling inner).checkAll
      (Lexicon.recalling_ask inner policy.language) settings inputs memo sound
    rw [ran] at recalled
    exact recalled.2
  | together plan => exact (plan.execute_spec policy _ sound).1

theorem Remembered.sound {inner : Inquiry (Except Lexicon.Fault)} {policy : Policy} {memo : Memo}
    (remembered : Remembered inner policy memo) : memo.Sound inner := by
  induction remembered with
  | nothing => exact Memo.sound_empty inner
  | after _ lints ih => exact lints.sound ih

theorem exists_turns {jobs : Nat} (enough : Fin jobs → Nat) :
    ∃ turns : List (Fin jobs), ∀ worker, enough worker ≤ turns.count worker := by
  refine ⟨(List.finRange jobs).flatMap fun worker => List.replicate (enough worker) worker,?_⟩
  intro worker
  obtain ⟨before,after,split⟩ := List.append_of_mem (List.mem_finRange worker)
  rw [split,List.flatMap_append,List.flatMap_cons,List.count_append,List.count_append,
    List.count_replicate_self]
  omega

theorem exists_lints {inner : Inquiry (Except Lexicon.Fault)} (settings : Settings)
    (policy : Policy) {memo : Memo} (sound : memo.Sound inner) (inputs : List Input) :
    ∃ result later, Lints inner settings policy memo inputs result later := by
  cases parallel : settings.engine.parallel with
  | false => exact ⟨_,_,.inTurn parallel rfl⟩
  | true =>
    obtain ⟨others,given⟩ : ∃ others, 0 < settings.engine.jobs → others + 1 = settings.engine.jobs :=
      ⟨settings.engine.jobs - 1,by omega⟩
    -- one worker takes all files, and the others none
    let share (worker : Fin (others + 1)) : List (Fin (kept settings.exclude inputs).length) :=
      if worker = 0 then List.finRange _ else []
    have complete : ((List.finRange (others + 1)).flatMap share).Perm (List.finRange _) := by
      have idle : ((List.finRange others).map Fin.succ).flatMap share = [] := by
        simp only [List.flatMap_map,List.flatMap_eq_nil_iff]
        exact fun worker _ => if_neg (Fin.succ_ne_zero worker)
      rw [List.finRange_succ,List.flatMap_cons,idle]
      simp [share]
    obtain ⟨enough,returns⟩ := Plan.exists_returned policy _ sound complete
    obtain ⟨turns,turned⟩ := exists_turns enough
    obtain ⟨results,returned⟩ := returns turns turned
    exact ⟨_,_,.together ⟨others + 1,share,turns⟩ parallel given complete returned⟩

/-- Every run has the same result, however it goes and whatever is remembered. -/
theorem Lints.result_eq {lexicon : Lexicon} {policy : Policy}
    (known : lexicon.knows policy.language = true) {settings : Settings} {memo later : Memo}
    {inputs : List Input} {result : Except Lexicon.Fault Report} (sound : memo.Sound lexicon.isUnknown)
    (lints : Lints lexicon.isUnknown settings policy memo inputs result later) :
    result = .ok (reportAll lexicon policy settings.exclude inputs) := by
  cases lints with
  | inTurn _ ran => rw [← checkAll_recalled known sound,ran]
  | together plan _ _ _ returned => exact Plan.join_returned known sound returned

end Orthography.Lint
