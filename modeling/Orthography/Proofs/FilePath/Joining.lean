import Orthography.Proofs.FilePath.Order

/-! Files in a directory. The directory of such a file is the one that it was put in, but for idle
segments at its end, and leads to the same places. -/
namespace Orthography.FilePath

section Segments

theorem slash_not_mem_of_mem_segments {path segment : String} (member : segment ∈ segments path) :
    '/' ∉ segment.toList := by
  obtain ⟨part,among,rfl⟩ := List.mem_map.mp member
  rw [String.toList_ofList]
  exact Text.not_mem_of_mem_splitAt among

theorem segments_of_not_mem {name : String} (single : '/' ∉ name.toList) :
    segments name = [name] := by
  rw [segments,Text.splitAt_of_not_mem single,List.map_singleton,String.ofList_toList]

/-- Texts without separators are the segments of the path that they make. -/
theorem segments_intercalate {first : String} {others : List String}
    (single : ∀ segment ∈ first :: others, '/' ∉ segment.toList) :
    segments ("/".intercalate (first :: others)) = first :: others := by
  induction others generalizing first with
  | nil =>
    rw [String.intercalate_singleton]
    exact segments_of_not_mem (single first List.mem_cons_self)
  | cons next others ih =>
    obtain ⟨here,later⟩ := List.forall_mem_cons.mp single
    rw [String.intercalate_cons_cons,segments_append_slash,ih later,segments_of_not_mem here]
    rfl

theorem intercalate_segments (path : String) : "/".intercalate (segments path) = path := by
  have cut (cs : List Char) :
      "/".intercalate ((Text.splitAt '/' cs).map String.ofList) = String.ofList cs := by
    induction cs with
    | nil => rfl
    | cons c rest ih =>
      obtain ⟨first,others,parts⟩ := List.exists_cons_of_ne_nil (Text.splitAt_ne_nil '/' rest)
      rw [parts] at ih
      by_cases here : c = '/'
      · rw [Text.splitAt,if_pos here,parts,List.map_cons,List.map_cons,
          String.intercalate_cons_cons,← List.map_cons,ih,here]
        rw [← String.toList_inj]
        simp
      · simp only [Text.splitAt,if_neg here,parts]
        rw [← String.toList_inj] at ih ⊢
        cases others <;> simp_all [String.intercalate_cons_cons]
  rw [segments,cut,String.ofList_toList]

end Segments

def opening (segments : List String) : List Part :=
  if segments.head? = some "" then [.root] else if segments.head? = some "." then [.here] else []

theorem isAbsolute_append_slash (front back : String) :
    isAbsolute (front ++ "/" ++ back) = decide ((segments front).head? = some "") := by
  cases shown : front.toList with
  | nil => simp [isAbsolute,segments,shown,Text.splitAt]
  | cons c rest =>
    obtain ⟨first,others,cut⟩ := List.exists_cons_of_ne_nil (Text.splitAt_ne_nil '/' rest)
    by_cases here : c = '/'
    · simp [isAbsolute,segments,shown,Text.splitAt,here]
    · simp [isAbsolute,segments,shown,Text.splitAt,here,cut]

theorem parts_append_slash (front back : String) :
    parts (front ++ "/" ++ back) = opening (segments front) ++ counted front ++ counted back := by
  rw [parts_eq,counted_append_slash,beginning,isAbsolute_append_slash,head?_segments_append_slash,
    opening]
  simp [List.append_assoc]

section Trimmed

/-- Only idle segments are trimmed. -/
theorem exists_trimIdle (path : String) (texts : List String) :
    ∃ idle, texts = trimIdle path texts ++ idle ∧ ∀ text ∈ idle, isIdle text = true := by
  have cut : texts = (texts.reverse.dropWhile isIdle).reverse ++
      (texts.reverse.takeWhile isIdle).reverse := by
    rw [← List.reverse_append,List.takeWhile_append_dropWhile,List.reverse_reverse]
  have each : ∀ text ∈ (texts.reverse.takeWhile isIdle).reverse, isIdle text = true :=
    fun text member => List.mem_takeWhile_imp (List.mem_reverse.mp member)
  rw [trimIdle]
  split
  next alone =>
    simp only [Bool.and_eq_true,List.isEmpty_iff,beq_iff_eq] at alone
    obtain ⟨rest,begun⟩ := List.head?_eq_some_iff.mp alone.2
    rw [alone.1.1,List.nil_append] at cut
    rw [← cut,begun] at each
    exact ⟨rest,begun,(List.forall_mem_cons.mp each).2⟩
  next => exact ⟨_,cut,each⟩

theorem getLast?_trimIdle (path : String) (texts : List String) :
    (trimIdle path texts).getLast? ≠ some "" := by
  rw [trimIdle]
  split
  · decide
  · intro last
    rw [List.getLast?_reverse] at last
    have stays := List.head?_dropWhile_not isIdle texts.reverse
    rw [last] at stays
    exact nomatch stays

theorem filter_idle {texts : List String} (each : ∀ text ∈ texts, isIdle text = true) :
    texts.filter (!isIdle ·) = [] :=
  List.filter_eq_nil_iff.mpr fun text member => by simp [each text member]

theorem trimIdle_concat (path : String) (texts : List String) {name : String}
    (counts : isIdle name = false) : trimIdle path (texts ++ [name]) = texts ++ [name] := by
  simp [trimIdle,counts]

theorem trimIdle_empty (path : String) : trimIdle path (segments "") = [] := by
  have empty : segments "" = [""] := rfl
  rw [trimIdle,empty,if_neg (by simp)]
  rfl

/-- Of a relative path some segment is always left. -/
theorem head?_of_trimIdle_eq_nil {path : String} {texts : List String} (there : texts ≠ [])
    (absolute : isAbsolute path = decide (texts.head? = some ""))
    (nothing : trimIdle path texts = []) : texts.head? = some "" := by
  obtain ⟨idle,cut,each⟩ := exists_trimIdle path texts
  rw [nothing,List.nil_append] at cut
  obtain ⟨first,rest,begun⟩ := List.exists_cons_of_ne_nil there
  have firstIdle : isIdle first = true := each first (cut ▸ begun ▸ List.mem_cons_self)
  by_contra relative
  rw [decide_eq_false relative] at absolute
  rw [begun,List.head?_cons,Option.some.injEq] at relative
  obtain rfl : first = "." := by simpa [isIdle,relative] using firstIdle
  -- the dot that a relative path begins with is left if nothing else is
  rw [trimIdle] at nothing
  split at nothing
  next => cases nothing
  next lost =>
    rw [nothing,absolute,begun] at lost
    exact lost rfl

end Trimmed

theorem join_of_isAbsolute {path : String} (absolute : isAbsolute path = true) (directory : String) :
    join directory path = path := by
  rw [join,absolute,Bool.true_or,if_pos rfl]

theorem join_empty (path : String) : join "" path = path := by
  simp [join]

theorem exists_append_slash_of_getLast? {path : String} (ended : path.toList.getLast? = some '/') :
    ∃ front, path = front ++ "/" := by
  obtain ⟨cs,whole⟩ := List.getLast?_eq_some_iff.mp ended
  refine ⟨String.ofList cs,?_⟩
  rw [← String.toList_inj]
  simpa using whole

theorem getLast?_segments_append_slash (front : String) :
    (segments (front ++ "/")).getLast? = some "" := by
  have behind : segments "" = [""] := rfl
  rw [← @String.append_empty (front ++ "/"),segments_append_slash,behind,List.getLast?_concat]

/-- A path that ends in no separator, as its last segment is not empty. -/
theorem unended_of_segments {path : String} (last : (segments path).getLast? ≠ some "") :
    path ≠ "" ∧ path.toList.getLast? ≠ some '/' := by
  constructor
  · rintro rfl
    exact last rfl
  · intro ended
    obtain ⟨front,cut⟩ := exists_append_slash_of_getLast? ended
    rw [cut,getLast?_segments_append_slash] at last
    exact last rfl

/-- Relative paths are put behind a directory and one separator, which may be its last one. -/
theorem exists_join {directory : String} (shown : directory ≠ "") :
    ∃ front, (directory = front ∧ directory.toList.getLast? ≠ some '/' ∨ directory = front ++ "/") ∧
      ∀ path, isAbsolute path = false → join directory path = front ++ "/" ++ path := by
  have solid : directory.isEmpty = false := by simpa using shown
  by_cases ended : directory.toList.getLast? = some '/'
  · obtain ⟨front,cut⟩ := exists_append_slash_of_getLast? ended
    refine ⟨front,.inr cut,fun path relative => ?_⟩
    simp only [join,relative,solid,ended,Bool.or_self,Bool.false_eq_true,if_false,beq_self_eq_true,
      if_true]
    rw [cut]
  · refine ⟨directory,.inl ⟨rfl,ended⟩,fun path relative => ?_⟩
    simp [join,relative,solid,ended]

theorem join_of_getLast? {directory path : String} (shown : directory ≠ "")
    (unended : directory.toList.getLast? ≠ some '/') (relative : isAbsolute path = false) :
    join directory path = directory ++ "/" ++ path := by
  simp [join,relative,shown,unended]

section Parent

variable {name : String} (single : '/' ∉ name.toList) (counts : isIdle name = false)

include single

theorem isAbsolute_of_not_mem : isAbsolute name = false := by
  rw [isAbsolute,beq_eq_false_iff_ne]
  exact fun begun => single (List.mem_of_mem_head? begun)

include counts

theorem parent?_append_slash (front : String) :
    let path := front ++ "/" ++ name
    let rest := "/".intercalate (trimIdle path (segments front))
    parent? path = some (if isAbsolute path && rest.isEmpty then "/" else rest) := by
  intro path rest
  have cut : trimIdle path (segments path) = segments front ++ [name] := by
    rw [segments_append_slash,segments_of_not_mem single,trimIdle_concat _ _ counts]
  rw [parent?,cut,List.reverse_append,List.reverse_singleton]
  simp only [List.singleton_append,List.reverse_reverse]
  rfl

theorem parent?_of_not_mem : parent? name = some "" := by
  have cut : trimIdle name (segments name) = [name] := by
    rw [segments_of_not_mem single]
    exact trimIdle_concat name [] counts
  rw [parent?,cut]
  simp [isAbsolute_of_not_mem single,trimIdle]

omit single counts in
/-- A directory whose idle segments at the end are gone leads where it led before. -/
theorem join_trimIdle {front : String} (left : trimIdle (front ++ "/" ++ name) (segments front) ≠ [])
    {path : String} (relative : isAbsolute path = false) :
    let found := "/".intercalate (trimIdle (front ++ "/" ++ name) (segments front))
    found ≠ "" ∧ parts (join found path) = parts (front ++ "/" ++ path) := by
  intro found
  obtain ⟨idle,cut,each⟩ := exists_trimIdle (front ++ "/" ++ name) (segments front)
  have last := getLast?_trimIdle (front ++ "/" ++ name) (segments front)
  obtain ⟨first,others,kept⟩ := List.exists_cons_of_ne_nil left
  have own : segments found = first :: others := by
    simp only [found,kept]
    apply segments_intercalate
    intro text member
    apply slash_not_mem_of_mem_segments
    rw [cut,kept]
    exact List.mem_append_left idle member
  rw [kept] at cut last
  have shown := unended_of_segments (own ▸ last)
  have joined : join found path = found ++ "/" ++ path := join_of_getLast? shown.1 shown.2 relative
  have begins : opening (segments found) = opening (segments front) := by
    rw [own,cut]
    rfl
  have counting : counted found = counted front := by
    rw [counted,counted,own,cut,List.filter_append,filter_idle each,List.append_nil]
  refine ⟨shown.1,?_⟩
  rw [joined,parts_append_slash,parts_append_slash,begins,counting]

/-- A file is put behind a directory and a separator. The directory that it is found in is the same
but for idle segments at the end, and the root if there is nothing else in front of the name. -/
theorem exists_parent?_append_slash (front : String) :
    ∃ found, parent? (front ++ "/" ++ name) = some found ∧
      (trimIdle (front ++ "/" ++ name) (segments front) = segments front → found = front) ∧
      (front = "" → found = "/") ∧
      ∀ path, isAbsolute path = false → parts (join found path) = parts (front ++ "/" ++ path) := by
  have given := parent?_append_slash single counts front
  by_cases nothing : trimIdle (front ++ "/" ++ name) (segments front) = []
  · have begun := head?_of_trimIdle_eq_nil (segments_ne_nil front)
      (isAbsolute_append_slash front name) nothing
    have absolute : isAbsolute (front ++ "/" ++ name) = true := by
      rw [isAbsolute_append_slash,begun]
      rfl
    obtain ⟨idle,cut,each⟩ := exists_trimIdle (front ++ "/" ++ name) (segments front)
    rw [nothing,List.nil_append] at cut
    -- nothing is left of the directory, so that the path begins at the root
    have uncounted : counted front = [] := by
      rw [counted,cut,filter_idle each]
      rfl
    simp only [nothing,absolute] at given
    refine ⟨"/",given,fun same => absurd (same.symm.trans nothing) (segments_ne_nil front),
      fun _ => rfl,fun path relative => ?_⟩
    have joined : join "/" path = "" ++ "/" ++ path := by
      simp [join,relative]
    rw [joined,parts_append_slash,parts_append_slash,uncounted,opening,opening,begun]
    rfl
  · obtain ⟨shown,-⟩ := @join_trimIdle name front nothing "" rfl
    refine ⟨_,?_,?_,?_,fun path relative => (join_trimIdle nothing relative).2⟩
    · simpa [shown] using given
    · intro same
      rw [same,intercalate_segments]
    · rintro rfl
      exact absurd (trimIdle_empty _) nothing

end Parent

/-- A directory whose last segment is not idle, or that is a root, a dot or nothing. -/
def Settled (directory : String) : Prop :=
  directory ∈ ["","/","."] ∨
    ∃ last, (segments directory).getLast? = some last ∧ isIdle last = false

/-- Nothing is trimmed of such a directory, unless it is the root. -/
theorem Settled.cases {directory : String} (settled : Settled directory) :
    directory = "" ∨ directory = "/" ∨ directory.toList.getLast? ≠ some '/' ∧
      ∀ name, trimIdle (directory ++ "/" ++ name) (segments directory) = segments directory := by
  rcases settled with few | ⟨last,ends,counts⟩
  · simp only [List.mem_cons,List.not_mem_nil,or_false] at few
    refine few.imp_right (Or.imp_right ?_)
    rintro rfl
    refine ⟨by decide +kernel,fun name => ?_⟩
    have dot : segments "." = ["."] := rfl
    have relative := isAbsolute_append_slash "." name
    rw [dot] at relative ⊢
    rw [trimIdle,relative]
    rfl
  · have solid : (segments directory).getLast? ≠ some "" := by
      rw [ends,Ne,Option.some.injEq]
      rintro rfl
      exact nomatch counts
    refine .inr (.inr ⟨(unended_of_segments solid).2,fun name => ?_⟩)
    obtain ⟨front,cut⟩ := List.getLast?_eq_some_iff.mp ends
    rw [cut]
    exact trimIdle_concat _ front counts

/-- The directory of a file leads where the directory leads that the file was put in, and is
written alike if that ends with a name. -/
theorem exists_parent?_join {name : String} (single : '/' ∉ name.toList)
    (counts : isIdle name = false) (directory : String) :
    ∃ found, parent? (join directory name) = some found ∧
      (Settled directory → found = directory) ∧
      ∀ path, parts (join found path) = parts (join directory path) := by
  by_cases given : directory = ""
  · subst given
    rw [join_empty]
    exact ⟨"",parent?_of_not_mem single counts,fun _ => rfl,fun _ => rfl⟩
  obtain ⟨front,shape,joined⟩ := exists_join given
  obtain ⟨found,parent,same,root,leads⟩ := exists_parent?_append_slash single counts front
  refine ⟨found,joined name (isAbsolute_of_not_mem single) ▸ parent,fun settled => ?_,fun path => ?_⟩
  · have ended : (front ++ "/").toList.getLast? = some '/' := by simp
    rcases settled.cases with nothing | only | ⟨unended,whole⟩
    · exact absurd nothing given
    · rcases shape with ⟨-,unended⟩ | slash
      · exact absurd (by rw [only]; decide +kernel) unended
      · have nothing : front = "" := by
          have length := congrArg String.length (only.symm.trans slash)
          simpa using length
        rw [root nothing,only]
    · rcases shape with ⟨rfl,-⟩ | slash
      · exact same (whole name)
      · exact absurd (slash ▸ ended) unended
  · cases relative : isAbsolute path with
    | true => rw [join_of_isAbsolute relative,join_of_isAbsolute relative]
    | false => rw [leads path relative,joined path relative]

section Extension

theorem isIdle_of_extension {name : String} (extended : extension name ≠ "") :
    isIdle name = false := by
  rw [← Bool.not_eq_true]
  intro idle
  rw [isIdle,Bool.or_eq_true,beq_iff_eq,beq_iff_eq] at idle
  rcases idle with rfl | rfl
  · exact extended (by decide +kernel)
  · exact extended (by decide +kernel)

variable {name : String} (single : '/' ∉ name.toList) (counts : isIdle name = false)

include single counts

theorem counted_of_not_mem : counted name = [partOf name] := by
  simp [counted,segments_of_not_mem single,counts]

theorem extension_join (directory : String) : extension (join directory name) = extension name := by
  have last (path : String) (begun : ∃ front, parts path = front ++ [partOf name]) :
      (parts path).getLast? = some (partOf name) := by
    obtain ⟨front,whole⟩ := begun
    rw [whole,List.getLast?_concat]
  have own := last name ⟨beginning name,by rw [parts_eq,counted_of_not_mem single counts]⟩
  have joined : (parts (join directory name)).getLast? = some (partOf name) := by
    apply last
    by_cases given : directory = ""
    · rw [given,join_empty]
      exact ⟨beginning name,by rw [parts_eq,counted_of_not_mem single counts]⟩
    · obtain ⟨front,-,behind⟩ := exists_join given
      rw [behind name (isAbsolute_of_not_mem single),parts_append_slash,
        counted_of_not_mem single counts]
      exact ⟨_,rfl⟩
  simp only [extension,fileName?,joined,own]

end Extension

end Orthography.FilePath
