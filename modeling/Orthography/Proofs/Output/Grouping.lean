import Mathlib.Data.List.Sort
import Orthography.Output
import Orthography.Proofs.FilePath.Order

/-! What a reader finds in a printed report. The groups are one for each path, in the order of
paths, and together they are the violations stably sorted by path. -/
namespace Orthography.Output.TextStyle

open FilePath (precedes precedes_irrefl precedes_asymm precedes_trans precedes_trichotomy
  ne_of_precedes not_precedes_trans)

def pathOf (violation : Violation) : List FilePath.Part := FilePath.parts violation.location.file

def inPath (path : List FilePath.Part) (violations : List Violation) : List Violation :=
  violations.filter fun violation => pathOf violation = path

section InPath

variable {path : List FilePath.Part} {violations others : List Violation}

@[simp] theorem mem_inPath {violation : Violation} :
    violation ∈ inPath path violations ↔ violation ∈ violations ∧ pathOf violation = path := by
  simp [inPath]

theorem inPath_cons (path : List FilePath.Part) (violation : Violation)
    (violations : List Violation) : inPath path (violation :: violations) =
      if pathOf violation = path then violation :: inPath path violations
      else inPath path violations := by
  simp [inPath,List.filter_cons]

theorem inPath_append :
    inPath path (violations ++ others) = inPath path violations ++ inPath path others :=
  List.filter_append violations others

theorem inPath_of_forall (same : ∀ violation ∈ violations, pathOf violation = path) :
    inPath path violations = violations :=
  List.filter_eq_self.mpr fun violation member => decide_eq_true (same violation member)

theorem inPath_of_forall_ne (differs : ∀ violation ∈ violations, pathOf violation ≠ path) :
    inPath path violations = [] :=
  List.filter_eq_nil_iff.mpr fun violation member =>
    decide_eq_true_iff.not.mpr (differs violation member)

theorem inPath_singleton (violation : Violation) :
    inPath path [violation] = if pathOf violation = path then [violation] else [] :=
  inPath_cons path violation []

end InPath

def Ordered (paths : List (List FilePath.Part)) : Prop :=
  paths.Pairwise fun first second => precedes first second = true

theorem Ordered.nodup {paths : List (List FilePath.Part)} (ordered : Ordered paths) :
    paths.Nodup :=
  ordered.imp ne_of_precedes

theorem Ordered.apart {before after : List Group} {group : Group}
    (ordered : Ordered ((before ++ group :: after).map Group.parts)) :
    ∀ other ∈ before ++ after, other.parts ≠ group.parts := by
  have distinct := ordered.nodup
  rw [List.map_append,List.map_cons,List.nodup_middle,List.nodup_cons,← List.map_append] at distinct
  exact fun other member same => distinct.1 (same ▸ List.mem_map_of_mem member)

/-- A group for each path that violations stand in, in the order of paths. Each has all of them in
their order, and the path as the first of them spells it. -/
structure Grouped (violations : List Violation) (groups : List Group) : Prop where
  ordered : Ordered (groups.map Group.parts)
  complete : ∀ violation ∈ violations, pathOf violation ∈ groups.map Group.parts
  all : ∀ group ∈ groups, group.violations = inPath group.parts violations
  first : ∀ group ∈ groups,
    group.violations.head?.map (fun violation => violation.location.file) = some group.file

/-- What adding a violation does to groups: the one of its path is given it at the end, or there is
none and one is put between those before and behind it. -/
inductive Added (violation : Violation) : List Group → List Group → Prop where
  | appended (before after : List Group) {group : Group} (same : group.parts = pathOf violation) :
      Added violation (before ++ group :: after)
        (before ++ { group with violations := group.violations ++ [violation] } :: after)
  | inserted (before after : List Group)
      (lower : ∀ group ∈ before, precedes group.parts (pathOf violation) = true)
      (higher : ∀ group ∈ after, precedes (pathOf violation) group.parts = true) :
      Added violation (before ++ after)
        (before ++ ⟨pathOf violation,violation.location.file,[violation]⟩ :: after)

section Adding

variable {violation : Violation} {violations : List Violation} {held : List Group}

theorem added_addTo (violation : Violation) (ordered : Ordered (held.map Group.parts)) :
    Added violation held (addTo violation held) := by
  induction held with
  | nil => exact .inserted [] [] (List.forall_mem_nil _) (List.forall_mem_nil _)
  | cons group rest ih =>
    obtain ⟨least,others⟩ := List.pairwise_cons.mp ordered
    rw [addTo]
    split
    · next lower =>
      refine .inserted [] (group :: rest) (List.forall_mem_nil _) ?_
      exact List.forall_mem_cons.mpr ⟨lower,fun other member =>
        precedes_trans lower (least other.parts (List.mem_map_of_mem member))⟩
    · next notLower =>
      split
      · next same => exact .appended [] rest same.symm
      · next differs =>
        have higher : precedes group.parts (pathOf violation) = true := by
          rcases precedes_trichotomy (pathOf violation) group.parts with lower | same | higher
          · exact absurd lower notLower
          · exact absurd same differs
          · exact higher
        have added := ih others
        generalize addTo violation rest = later at added ⊢
        cases added with
        | appended before after same => exact .appended (group :: before) after same
        | inserted before after lower behind =>
          exact .inserted (group :: before) after (List.forall_mem_cons.mpr ⟨higher,lower⟩) behind

theorem forall_mem_middle {P : Group → Prop} {before after : List Group} {group : Group} :
    (∀ other ∈ before ++ group :: after, P other) ↔
      P group ∧ ∀ other ∈ before ++ after, P other := by
  simp only [List.perm_middle.mem_iff,List.forall_mem_cons]

section Step

variable {before after : List Group}

/-- The groups of other paths stay as they are. -/
theorem all_append {others : List Group}
    (apart : ∀ group ∈ others, group.parts ≠ pathOf violation)
    (all : ∀ group ∈ others, group.violations = inPath group.parts violations) :
    ∀ group ∈ others, group.violations = inPath group.parts (violations ++ [violation]) := by
  intro group member
  rw [inPath_append,inPath_singleton,if_neg (apart group member).symm,List.append_nil]
  exact all group member

theorem Grouped.appended {group : Group} (grouped : Grouped violations (before ++ group :: after))
    (same : group.parts = pathOf violation) :
    Grouped (violations ++ [violation])
      (before ++ { group with violations := group.violations ++ [violation] } :: after) := by
  obtain ⟨ordered,complete,all,first⟩ := grouped
  rw [forall_mem_middle] at all first
  have apart := ordered.apart
  rw [same] at apart
  have paths : (before ++ { group with violations := group.violations ++ [violation] } ::
      after).map Group.parts = (before ++ group :: after).map Group.parts := by simp
  have own : group.violations ++ [violation] = inPath group.parts (violations ++ [violation]) := by
    rw [inPath_append,inPath_singleton,if_pos same.symm,all.1]
  constructor
  case ordered => rwa [paths]
  case complete =>
    rw [paths]
    refine List.forall_mem_append.mpr ⟨complete,List.forall_mem_singleton.mpr ?_⟩
    rw [← same]
    exact List.mem_map_of_mem List.mem_append_cons_self
  case all => exact forall_mem_middle.mpr ⟨own,all_append apart all.2⟩
  case first =>
    refine forall_mem_middle.mpr ⟨?_,first.2⟩
    obtain ⟨earliest,found,file⟩ := Option.map_eq_some_iff.mp first.1
    simp [List.head?_append,found,file]

theorem Grouped.inserted (grouped : Grouped violations (before ++ after))
    (lower : ∀ group ∈ before, precedes group.parts (pathOf violation) = true)
    (higher : ∀ group ∈ after, precedes (pathOf violation) group.parts = true) :
    Grouped (violations ++ [violation])
      (before ++ ⟨pathOf violation,violation.location.file,[violation]⟩ :: after) := by
  obtain ⟨ordered,complete,all,first⟩ := grouped
  have apart : ∀ other ∈ before ++ after, other.parts ≠ pathOf violation :=
    List.forall_mem_append.mpr ⟨fun other member => ne_of_precedes (lower other member),
      fun other member => (ne_of_precedes (higher other member)).symm⟩
  have fresh : ∀ earlier ∈ violations, pathOf earlier ≠ pathOf violation := by
    intro earlier member same
    obtain ⟨group,listed,parts⟩ := List.mem_map.mp (complete earlier member)
    exact apart group listed (parts.trans same)
  have own : [violation] = inPath (pathOf violation) (violations ++ [violation]) := by
    rw [inPath_append,inPath_of_forall_ne fresh,inPath_singleton,if_pos rfl,List.nil_append]
  have paths : ((before ++ ⟨pathOf violation,violation.location.file,[violation]⟩ ::
      after).map Group.parts).Perm (pathOf violation :: (before ++ after).map Group.parts) :=
    List.perm_middle.map Group.parts
  constructor
  case ordered =>
    rw [List.map_append,Ordered,List.pairwise_append] at ordered ⊢
    obtain ⟨front,back,across⟩ := ordered
    refine ⟨front,List.pairwise_cons.mpr ⟨List.forall_mem_map.mpr higher,back⟩,?_⟩
    exact List.forall_mem_map.mpr fun group member => List.forall_mem_cons.mpr
      ⟨lower group member,across group.parts (List.mem_map_of_mem member)⟩
  case complete =>
    simp only [paths.mem_iff,List.mem_cons]
    exact List.forall_mem_append.mpr ⟨fun earlier member => .inr (complete earlier member),
      List.forall_mem_singleton.mpr (.inl rfl)⟩
  case all => exact forall_mem_middle.mpr ⟨own,all_append apart all⟩
  case first => exact forall_mem_middle.mpr ⟨rfl,first⟩

end Step

/-- Adding a violation keeps the groups such, with it behind the other violations. -/
theorem Grouped.addTo (grouped : Grouped violations held) (violation : Violation) :
    Grouped (violations ++ [violation]) (addTo violation held) := by
  have added := added_addTo violation grouped.ordered
  generalize TextStyle.addTo violation held = later at added ⊢
  cases added with
  | appended before after same => exact grouped.appended same
  | inserted before after lower higher => exact grouped.inserted lower higher

theorem grouped_groups (violations : List Violation) :
    Grouped violations (groups violations) := by
  induction violations using List.reverseRecOn with
  | nil => exact ⟨.nil,List.forall_mem_nil _,List.forall_mem_nil _,List.forall_mem_nil _⟩
  | append_singleton violations violation ih =>
    rw [TextStyle.groups,List.foldl_concat]
    exact ih.addTo violation

end Adding

section Unique

variable {violations others : List Violation} {held again : List Group}

theorem Ordered.unique {paths others : List (List FilePath.Part)} (ordered : Ordered paths)
    (again : Ordered others) (same : ∀ path, path ∈ paths ↔ path ∈ others) : paths = others := by
  have perm := (List.perm_ext_iff_of_nodup ordered.nodup again.nodup).mpr same
  refine perm.eq_of_pairwise (fun first second _ _ before after => ?_) ordered again
  rw [precedes_asymm before] at after
  exact nomatch after

theorem Grouped.mem_paths (grouped : Grouped violations held) (path : List FilePath.Part) :
    path ∈ held.map Group.parts ↔ ∃ violation ∈ violations, pathOf violation = path := by
  constructor
  · intro member
    obtain ⟨group,listed,rfl⟩ := List.mem_map.mp member
    obtain ⟨earliest,found,_⟩ := Option.map_eq_some_iff.mp (grouped.first group listed)
    have among := List.mem_of_mem_head? found
    rw [grouped.all group listed,mem_inPath] at among
    exact ⟨earliest,among⟩
  · rintro ⟨violation,member,rfl⟩
    exact grouped.complete violation member

def groupAt (violations : List Violation) (path : List FilePath.Part) : Group :=
  ⟨path,((inPath path violations).head?.map fun violation => violation.location.file).getD "",
    inPath path violations⟩

theorem Grouped.eq_map (grouped : Grouped violations held) :
    held = (held.map Group.parts).map (groupAt violations) := by
  have each : ∀ group ∈ held, group = groupAt violations group.parts := by
    intro group member
    have all := grouped.all group member
    have first := grouped.first group member
    rw [all] at first
    rw [groupAt,first,← all]
    rfl
  calc
    held = held.map id := (List.map_id held).symm
    _ = held.map fun group => groupAt violations group.parts := List.map_congr_left each
    _ = _ := by rw [List.map_map]; rfl

theorem Grouped.unique (grouped : Grouped violations held) (other : Grouped violations again) :
    held = again := by
  have paths : held.map Group.parts = again.map Group.parts :=
    grouped.ordered.unique other.ordered fun path => by
      rw [grouped.mem_paths,other.mem_paths]
  rw [grouped.eq_map,paths,← other.eq_map]

theorem Grouped.congr (grouped : Grouped violations held)
    (same : ∀ path, inPath path others = inPath path violations) : Grouped others held where
  ordered := grouped.ordered
  complete violation member := by
    have own : violation ∈ inPath (pathOf violation) others := mem_inPath.mpr ⟨member,rfl⟩
    rw [same,mem_inPath] at own
    exact grouped.complete violation own.1
  all group member := by rw [same,grouped.all group member]
  first := grouped.first

end Unique

/-- Sorted by path, with the violations in each path in the order in which they were. -/
structure StablySorted (violations sorted : List Violation) : Prop where
  ordered : sorted.Pairwise fun first second => precedes (pathOf second) (pathOf first) = false
  same : ∀ path, inPath path sorted = inPath path violations

section Sorting

variable {violations sorted : List Violation} {held : List Group}

theorem Grouped.pathOf_of_mem (grouped : Grouped violations held) :
    ∀ group ∈ held, ∀ violation ∈ group.violations, pathOf violation = group.parts := by
  intro group member violation among
  rw [grouped.all group member,mem_inPath] at among
  exact among.2

/-- One group at most is that of a path, and it has all that stands there. -/
theorem Grouped.inPath_flatMap (grouped : Grouped violations held) (path : List FilePath.Part) :
    inPath path (held.flatMap Group.violations) = inPath path violations := by
  have inside := grouped.pathOf_of_mem
  have nothing (others : List Group) (part : ∀ group ∈ others, group ∈ held)
      (apart : ∀ group ∈ others, group.parts ≠ path) :
      inPath path (others.flatMap Group.violations) = [] := by
    refine inPath_of_forall_ne fun violation member => ?_
    obtain ⟨group,listed,among⟩ := List.mem_flatMap.mp member
    rw [inside group (part group listed) violation among]
    exact apart group listed
  by_cases listed : path ∈ held.map Group.parts
  · obtain ⟨group,member,rfl⟩ := List.mem_map.mp listed
    have all := grouped.all group member
    obtain ⟨before,after,split⟩ := List.append_of_mem member
    have apart := Ordered.apart (split ▸ grouped.ordered)
    have front := nothing before (fun other there => split ▸ List.mem_append_left _ there)
      fun other there => apart other (List.mem_append_left after there)
    have back := nothing after
      (fun other there => split ▸ List.mem_append_right _ (List.mem_cons_of_mem group there))
      fun other there => apart other (List.mem_append_right before there)
    rw [split,List.flatMap_append,List.flatMap_cons,inPath_append,inPath_append,front,back,
      List.nil_append,List.append_nil,inPath_of_forall (inside group member),all]
  · have nobody : ∀ violation ∈ violations, pathOf violation ≠ path :=
      fun violation member same => listed (same ▸ grouped.complete violation member)
    have apart : ∀ group ∈ held, group.parts ≠ path :=
      fun group member same => listed (same ▸ List.mem_map_of_mem member)
    rw [nothing held (fun _ => id) apart,inPath_of_forall_ne nobody]

/-- The groups one behind the other. -/
theorem Grouped.stablySorted (grouped : Grouped violations held) :
    StablySorted violations (held.flatMap Group.violations) := by
  have inside := grouped.pathOf_of_mem
  constructor
  case ordered =>
    rw [List.pairwise_flatMap]
    constructor
    · intro group member
      refine List.pairwise_of_forall_mem_list fun first here second there => ?_
      rw [inside group member first here,inside group member second there,precedes_irrefl]
    · refine (List.pairwise_map.mp grouped.ordered).imp_of_mem ?_
      intro lower higher below above strict first here second there
      rw [inside lower below first here,inside higher above second there]
      exact precedes_asymm strict
  case same => exact grouped.inPath_flatMap

def byPath (first second : Violation) : Bool := !precedes (pathOf second) (pathOf first)

theorem stablySorted_mergeSort (violations : List Violation) :
    StablySorted violations (violations.mergeSort byPath) := by
  have trans (first second third : Violation) (before : byPath first second = true)
      (later : byPath second third = true) : byPath first third = true := by
    simp only [byPath,Bool.not_eq_true'] at *
    exact not_precedes_trans before later
  have total (first second : Violation) : (byPath first second || byPath second first) = true := by
    by_cases before : precedes (pathOf second) (pathOf first) = true
    · simp [byPath,precedes_asymm before]
    · simp [byPath,before]
  constructor
  case ordered =>
    refine (List.pairwise_mergeSort trans total violations).imp fun before => ?_
    simpa [byPath] using before
  case same =>
    intro path
    -- those of one path are sorted already, so that they stay in their order
    have sorted : (inPath path violations).Pairwise fun first second =>
        byPath first second = true := by
      refine List.pairwise_of_forall_mem_list fun first here second there => ?_
      rw [byPath,(mem_inPath.mp here).2,(mem_inPath.mp there).2,precedes_irrefl]
      rfl
    have part : (inPath path violations).Sublist (violations.mergeSort byPath) :=
      List.sublist_mergeSort trans total sorted List.filter_sublist
    have kept : (inPath path (inPath path violations)).Sublist
        (inPath path (violations.mergeSort byPath)) := part.filter _
    rw [inPath_of_forall fun violation member => (mem_inPath.mp member).2] at kept
    have perm := (List.mergeSort_perm violations byPath).filter fun violation =>
      pathOf violation = path
    exact (kept.eq_of_length perm.length_eq.symm).symm

theorem StablySorted.mem_iff (stable : StablySorted violations sorted) {violation : Violation} :
    violation ∈ sorted ↔ violation ∈ violations := by
  have same : violation ∈ inPath (pathOf violation) sorted ↔
      violation ∈ inPath (pathOf violation) violations := by rw [stable.same]
  simpa using same

/-- No path precedes that of the first. -/
theorem StablySorted.least {first : Violation} {rest : List Violation}
    (stable : StablySorted violations (first :: rest)) {violation : Violation}
    (member : violation ∈ violations) : precedes (pathOf violation) (pathOf first) = false := by
  rcases List.mem_cons.mp (stable.mem_iff.mpr member) with rfl | later
  · exact precedes_irrefl _
  · exact List.rel_of_pairwise_cons stable.ordered later

theorem StablySorted.unique {other : List Violation} (stable : StablySorted violations sorted)
    (again : StablySorted violations other) : sorted = other := by
  induction sorted generalizing violations other with
  | nil =>
    cases other with
    | nil => rfl
    | cons first rest => exact nomatch stable.mem_iff.mpr (again.mem_iff.mp List.mem_cons_self)
  | cons first rest ih =>
    cases other with
    | nil => exact nomatch again.mem_iff.mpr (stable.mem_iff.mp List.mem_cons_self)
    | cons otherFirst others =>
      have path : pathOf first = pathOf otherFirst := by
        have here := again.least (stable.mem_iff.mp List.mem_cons_self)
        have there := stable.least (again.mem_iff.mp List.mem_cons_self)
        rcases precedes_trichotomy (pathOf first) (pathOf otherFirst) with lower | same | higher
        · exact nomatch here.symm.trans lower
        · exact same
        · exact nomatch there.symm.trans higher
      have equal (path : List FilePath.Part) := (stable.same path).trans (again.same path).symm
      simp only [inPath_cons] at equal
      have own := equal (pathOf first)
      rw [if_pos rfl,if_pos path.symm] at own
      obtain ⟨rfl,-⟩ := List.cons.inj own
      -- what is left of both is sorted from one list, for which one of them will do
      have rests : ∀ path, inPath path others = inPath path rest := by
        intro path
        have cut := equal path
        split at cut
        · exact (List.cons.inj cut).2.symm
        · exact cut.symm
      rw [ih ⟨stable.ordered.of_cons,fun _ => rfl⟩ ⟨again.ordered.of_cons,rests⟩]

end Sorting

/-- A report is printed with a headline for each path, under it the violations there, and a blank
line. The violations stand in the stable order of their paths, so that only their order in each
path matters. -/
theorem format_grouped (style : TextStyle) (report : Report) :
    ∃ groups, Grouped report.violations groups ∧
      (Output.text style).format report =
        "".intercalate (groups.map fun group => style.paint [.underline] group.file ++ "\n" ++
          "".intercalate (group.violations.map (Output.text style).violationText) ++ "\n") ++
          (if style.showStatistics then style.statistics report else "") ∧
      StablySorted report.violations (groups.flatMap Group.violations) ∧
      groups.flatMap Group.violations = report.violations.mergeSort byPath ∧
      ∀ violations, (∀ path, inPath path violations = inPath path report.violations) →
        (Output.text style).format { report with violations } =
          (Output.text style).format report := by
  have grouped := grouped_groups report.violations
  refine ⟨groups report.violations,grouped,rfl,grouped.stablySorted,
    grouped.stablySorted.unique (stablySorted_mergeSort _),fun violations same => ?_⟩
  have regrouped : groups violations = groups report.violations :=
    (grouped_groups violations).unique (grouped.congr same)
  change format style _ = format style _
  rw [format,regrouped]
  rfl

/-- Two spellings of each of two paths. -/
theorem format_grouped_spellings :
    let violation := fun file offset => (⟨"rule",.info,"",⟨file,offset,0⟩,none,[],none⟩ : Violation)
    let first := violation "b//x" 1
    let second := violation "a/" 2
    let third := violation "b/./x" 3
    let fourth := violation "a" 4
    let report := { Report.empty with violations := [first,second,third,fourth] }
    let other := { report with violations := [second,fourth,first,third] }
    ∃ groups, Grouped report.violations groups ∧ groups.map Group.file = ["a/","b//x"] ∧
      groups.flatMap Group.violations = [second,fourth,first,third] ∧
      ∀ style, (Output.text style).format other = (Output.text style).format report := by
  intro violation first second third fourth report other
  have plain : FilePath.parts "a" = [.name "a"] := by decide +kernel
  have trailing : FilePath.parts "a/" = [.name "a"] := by decide +kernel
  have doubled : FilePath.parts "b//x" = [.name "b",.name "x"] := by decide +kernel
  have dotted : FilePath.parts "b/./x" = [.name "b",.name "x"] := by decide +kernel
  have lower : precedes [.name "a"] [.name "b",.name "x"] = true := by decide +kernel
  have computed : groups report.violations =
      [⟨[.name "a"],"a/",[second,fourth]⟩,⟨[.name "b",.name "x"],"b//x",[first,third]⟩] := by
    simp [groups,addTo,report,first,second,third,fourth,violation,plain,trailing,doubled,dotted,
      lower,precedes_asymm lower,precedes_irrefl]
  obtain ⟨held,grouped,_,stable,_⟩ := format_grouped ⟨false,false,false⟩ report
  obtain rfl := (grouped.unique (grouped_groups _)).trans computed
  refine ⟨_,grouped,rfl,rfl,fun style => ?_⟩
  obtain ⟨_,_,_,_,_,reordered⟩ := format_grouped style report
  exact reordered [second,fourth,first,third] stable.same

end Orthography.Output.TextStyle
