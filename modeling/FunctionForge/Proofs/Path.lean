import FunctionForge.Path

/-!
# A path and the paths above it

A path is its pieces with slashes between them. The path above has the same pieces up to the last
one, except for pieces that carry no meaning, which are dropped. Going up ends, so the paths above
are the path above with the paths above that one.
-/

namespace FunctionForge

namespace Path

theorem joinPieces_append {first second : List (List Char)} (hfirst : first ≠ [])
    (hsecond : second ≠ []) :
    joinPieces (first ++ second) = joinPieces first ++ '/' :: joinPieces second := by
  induction first with
  | nil => exact absurd rfl hfirst
  | cons piece rest ih =>
    cases rest with
    | nil =>
      cases second with
      | nil => exact absurd rfl hsecond
      | cons => rfl
    | cons =>
      have hrest := ih (List.cons_ne_nil _ _)
      simp only [List.cons_append, joinPieces, List.append_assoc] at hrest ⊢
      rw [hrest]

theorem splitAt_joinPieces {pieces : List (List Char)} (hpieces : pieces ≠ [])
    (h : ∀ piece ∈ pieces, '/' ∉ piece) : Text.splitAt '/' (joinPieces pieces) = pieces := by
  induction pieces with
  | nil => exact absurd rfl hpieces
  | cons piece rest ih =>
    rw [List.forall_mem_cons] at h
    cases rest with
    | nil => exact Text.splitAt_of_not_mem h.1
    | cons other others =>
      rw [joinPieces, Text.splitAt_append_cons, Text.splitAt_of_not_mem h.1,
        ih (List.cons_ne_nil _ _) h.2]
      · rfl
      · exact List.cons_ne_nil _ _

theorem joinPieces_splitAt (text : List Char) : joinPieces (Text.splitAt '/' text) = text := by
  induction text with
  | nil => rfl
  | cons c rest ih =>
    cases hsplit : Text.splitAt '/' rest with
    | nil => exact absurd hsplit (Text.splitAt_ne_nil '/' rest)
    | cons part parts =>
      rw [hsplit] at ih
      rw [Text.splitAt, hsplit]
      split
      · next hc =>
        rw [hc, ← ih]
        rfl
      · rw [← ih]
        cases parts <;> rfl

theorem innerComponent?_eq_none_iff {piece : List Char} :
    innerComponent? piece = none ↔ piece = [] ∨ piece = ['.'] := by
  rw [innerComponent?.eq_def]
  split <;> simp_all

/-- The pieces that are dropped carry no meaning. -/
theorem exists_dropped (pieces : List (List Char)) : ∃ dropped,
    pieces = dropped ++ trimReversed pieces ∧ ∀ piece ∈ dropped, piece = [] ∨ piece = ['.'] := by
  fun_induction trimReversed pieces with
  | case1 => exact ⟨[], rfl, nofun⟩
  | case2 => exact ⟨[[]], rfl, List.forall_mem_singleton.2 (.inl rfl)⟩
  | case3 => exact ⟨[], rfl, nofun⟩
  | case4 => exact ⟨[], rfl, nofun⟩
  | case5 piece rest _ hpiece ih =>
    obtain ⟨dropped, hdropped, hempty⟩ := ih
    have hnone : innerComponent? piece = none := by simpa using hpiece
    refine ⟨piece :: dropped, ?_, List.forall_mem_cons.2 ⟨?_, hempty⟩⟩
    · rw [List.cons_append, ← hdropped]
    · exact innerComponent?_eq_none_iff.1 hnone

theorem trimReversed_trimReversed (pieces : List (List Char)) :
    trimReversed (trimReversed pieces) = trimReversed pieces := by
  fun_induction trimReversed pieces with
  | case1 => rfl
  | case2 => rfl
  | case3 piece hpiece => rw [trimReversed, if_neg hpiece]
  | case4 piece rest hrest hpiece =>
    cases rest with
    | nil => exact absurd rfl hrest
    | cons other others => rw [trimReversed, if_pos hpiece]; exact List.cons_ne_nil _ _
  | case5 _ _ _ _ ih => exact ih

theorem length_trimReversed_le (pieces : List (List Char)) :
    (trimReversed pieces).length ≤ pieces.length := by
  obtain ⟨dropped, hdropped, -⟩ := exists_dropped pieces
  have hlength := congrArg List.length hdropped
  rw [List.length_append] at hlength
  omega

theorem ne_nil_of_trimReversed {pieces rest : List (List Char)} {last : List Char}
    (h : trimReversed pieces = last :: rest) : last ≠ [] := by
  fun_induction trimReversed pieces with
  | case1 => cases h
  | case2 => cases h
  | case3 piece hpiece =>
    cases h
    exact hpiece
  | case4 piece rest hrest hpiece =>
    cases h
    rintro rfl
    cases hpiece
  | case5 _ _ _ _ ih => exact ih h

/-- The pieces of a path without those at the end that carry no meaning, last one first. -/
def kept (path : Path) : List (List Char) := trimReversed path.pieces.reverse

/-- The pieces that are steps. -/
def names (path : Path) : List (List Char) := path.pieces.filter (· ≠ [])

/-- No dot stands at the end, unless it is all of the path. -/
def IsTrimmed (path : Path) : Prop := path.names = path.kept.reverse.filter (· ≠ [])

variable {path parent : Path}

theorem pieces_ne_nil (path : Path) : path.pieces ≠ [] := Text.splitAt_ne_nil '/' _

theorem parent?_of_nil {last : List Char} {rest : List (List Char)} (h : path.kept = last :: rest)
    (hrest : trimReversed rest = []) :
    path.parent? = some ⟨if path.isAbsolute then "/" else ""⟩ := by
  rw [kept] at h
  rw [parent?, h]
  simp only [hrest]

theorem parent?_of_cons {last next : List Char} {rest others : List (List Char)}
    (h : path.kept = last :: rest) (hrest : trimReversed rest = next :: others) :
    path.parent? = some ⟨String.ofList (joinPieces (next :: others).reverse)⟩ := by
  rw [kept] at h
  rw [parent?, h]
  simp only [hrest]

theorem parent?_eq_none_iff : path.parent? = none ↔ path.kept = [] := by
  cases hkept : path.kept with
  | nil =>
    rw [kept] at hkept
    rw [parent?, hkept]
    exact iff_of_true rfl rfl
  | cons last rest =>
    refine iff_of_false (fun h => ?_) nofun
    cases hrest : trimReversed rest with
    | nil => rw [parent?_of_nil hkept hrest] at h; cases h
    | cons => rw [parent?_of_cons hkept hrest] at h; cases h

theorem pieces_joinPieces {parts : List (List Char)} (hparts : parts ≠ [])
    (h : ∀ piece ∈ parts, '/' ∉ piece) :
    (Path.mk (String.ofList (joinPieces parts))).pieces = parts := by
  rw [pieces, String.toList_ofList, splitAt_joinPieces hparts h]

/-- What going up keeps of a path. -/
structure IsParent (parent path : Path) : Prop where
  isAbsolute : parent.isAbsolute = path.isAbsolute
  text : parent.text.toList <+: path.text.toList
  trimmed : parent.IsTrimmed
  kept : ∃ last dropped, last ≠ [] ∧ (∀ piece ∈ dropped, piece = [] ∨ piece = ['.']) ∧
    path.kept = last :: (dropped ++ parent.kept)

theorem isAbsolute_iff : path.isAbsolute ↔ ['/'] <+: path.text.toList := by
  rw [isAbsolute, decide_eq_true_iff]
  cases path.text.toList <;> simp [eq_comm]

theorem isParent_top {last : List Char} {rest : List (List Char)} (hkept : path.kept = last :: rest)
    (hrest : trimReversed rest = []) : IsParent ⟨if path.isAbsolute then "/" else ""⟩ path := by
  obtain ⟨dropped, hdropped, hempty⟩ := exists_dropped rest
  rw [hrest, List.append_nil] at hdropped
  have hlast : last ≠ [] := ne_nil_of_trimReversed hkept
  subst hdropped
  by_cases habsolute : path.isAbsolute
  · rw [if_pos habsolute]
    refine ⟨habsolute.symm, isAbsolute_iff.1 habsolute, rfl, last, rest, hlast, hempty, ?_⟩
    rw [hkept, show (Path.mk "/").kept = [] from rfl, List.append_nil]
  · rw [if_neg habsolute]
    refine ⟨(Bool.eq_false_iff.2 habsolute).symm, List.nil_prefix, rfl, last, rest, hlast, hempty,
      ?_⟩
    rw [hkept, show (Path.mk "").kept = [] from rfl, List.append_nil]

theorem isParent_joined {last next : List Char} {rest others : List (List Char)}
    (hkept : path.kept = last :: rest) (hrest : trimReversed rest = next :: others) :
    IsParent ⟨String.ofList (joinPieces (next :: others).reverse)⟩ path := by
  obtain ⟨outer, houter, -⟩ := exists_dropped path.pieces.reverse
  obtain ⟨dropped, hdropped, hempty⟩ := exists_dropped rest
  rw [hrest] at hdropped
  rw [show trimReversed path.pieces.reverse = _ from hkept, hdropped] at houter
  have hpieces : path.pieces =
      (next :: others).reverse ++ (dropped.reverse ++ last :: outer.reverse) := by
    rw [← List.reverse_reverse path.pieces, houter]
    simp
  have hslash : ∀ piece ∈ (next :: others).reverse, '/' ∉ piece := fun piece hmem =>
    Text.not_mem_of_mem_splitAt (show piece ∈ path.pieces by
      rw [hpieces]
      exact List.mem_append_left _ hmem)
  have hparent : (Path.mk (String.ofList (joinPieces (next :: others).reverse))).pieces =
      (next :: others).reverse :=
    pieces_joinPieces (by simp) hslash
  have hparentkept : (Path.mk (String.ofList (joinPieces (next :: others).reverse))).kept =
      next :: others := by
    rw [kept, hparent, List.reverse_reverse, ← hrest, trimReversed_trimReversed]
  have htext : joinPieces (next :: others).reverse <+: path.text.toList := by
    rw [← joinPieces_splitAt path.text.toList]
    change _ <+: joinPieces path.pieces
    rw [hpieces, joinPieces_append (by simp) (by simp)]
    exact List.prefix_append _ _
  have hnonempty : joinPieces (next :: others).reverse ≠ [] := by
    intro hnil
    rw [hnil] at hparentkept
    cases hparentkept
  refine ⟨?_, ?_, ?_, last, dropped, ne_nil_of_trimReversed hkept, hempty, ?_⟩
  · obtain ⟨rest, hrest⟩ := htext
    rw [isAbsolute, isAbsolute, ← hrest, String.toList_ofList,
      List.head?_append, Option.or_of_isSome (List.isSome_head?.2 hnonempty)]
  · rw [String.toList_ofList]
    exact htext
  · rw [IsTrimmed, names, hparent, hparentkept]
  · rw [hkept, hdropped, hparentkept]

theorem isParent_of_parent? (h : path.parent? = some parent) : parent.IsParent path := by
  cases hkept : path.kept with
  | nil =>
    rw [parent?_eq_none_iff.2 hkept] at h
    cases h
  | cons last rest =>
    cases hrest : trimReversed rest with
    | nil =>
      rw [parent?_of_nil hkept hrest] at h
      cases h
      exact isParent_top hkept hrest
    | cons next others =>
      rw [parent?_of_cons hkept hrest] at h
      cases h
      exact isParent_joined hkept hrest

/-- The steps of a path are those of the path above, perhaps some dots, and one more. -/
theorem exists_names_eq (htrimmed : path.IsTrimmed) (h : path.parent? = some parent) :
    ∃ dots last, (∀ piece ∈ dots, piece = ['.']) ∧
      path.names = parent.names ++ (dots ++ [last]) := by
  obtain ⟨-, -, hparent, last, dropped, hlast, hempty, hkept⟩ := isParent_of_parent? h
  refine ⟨dropped.reverse.filter (· ≠ []), last, fun piece hmem => ?_, ?_⟩
  · obtain ⟨hdropped, hpiece⟩ := List.mem_filter.1 hmem
    exact (hempty piece (List.mem_reverse.1 hdropped)).resolve_left (of_decide_eq_true hpiece)
  · rw [htrimmed, hparent, hkept]
    simp [hlast]

theorem length_kept_lt (h : path.parent? = some parent) :
    parent.kept.length < path.kept.length := by
  obtain ⟨last, dropped, -, -, hkept⟩ := (isParent_of_parent? h).kept
  rw [hkept, List.length_cons, List.length_append]
  omega

/-- Going up further than a path reaches changes nothing. -/
theorem upward_eq {n k : Nat} (hn : path.kept.length ≤ n) (hk : path.kept.length ≤ k) :
    upward n path = upward k path := by
  induction n generalizing path k with
  | zero =>
    have hnone : path.parent? = none :=
      parent?_eq_none_iff.2 (List.length_eq_zero_iff.1 (Nat.le_zero.1 hn))
    cases k with
    | zero => rfl
    | succ k => rw [upward, upward, hnone]
  | succ n ih =>
    cases hparent : path.parent? with
    | none => cases k <;> simp only [upward, hparent]
    | some parent =>
      have hlength := length_kept_lt hparent
      cases k with
      | zero => omega
      | succ k =>
        simp only [upward, hparent]
        rw [ih (k := k) (by omega) (by omega)]

theorem length_kept_le (path : Path) : path.kept.length ≤ path.pieces.length := by
  calc
    path.kept.length ≤ path.pieces.reverse.length := length_trimReversed_le _
    _ = path.pieces.length := List.length_reverse

theorem text_ne_empty_of_parent? (h : path.parent? = some parent) : path.text ≠ "" := by
  obtain ⟨text⟩ := path
  rintro rfl
  cases h

theorem named_of_none (h : path.parent? = none) : path.named = [] := by
  have hupward : path.ancestors = [path] := by
    rw [ancestors]
    cases path.pieces.length <;> simp only [upward, h]
  rw [named, hupward, List.takeWhile_cons_of_neg]
  simp [h]

/-- The path and the paths above it are the path and those that its parent has. -/
theorem named_of_some (h : path.parent? = some parent) : path.named = path :: parent.named := by
  have hlength := length_kept_lt h
  have hpath := length_kept_le path
  have hupward : path.ancestors = path :: parent.ancestors := by
    rw [ancestors, ancestors]
    cases hpieces : path.pieces.length with
    | zero => omega
    | succ n =>
      simp only [upward, h]
      rw [upward_eq (by omega) (length_kept_le parent)]
  rw [named, hupward, List.takeWhile_cons_of_pos, named]
  simp [h, text_ne_empty_of_parent? h]

theorem getLast?_pieces_append (before : List Char) (text : String) :
    (Path.mk (String.ofList before ++ "/" ++ text)).pieces.getLast? =
      (Path.mk text).pieces.getLast? := by
  have htext : (String.ofList before ++ "/" ++ text).toList = before ++ '/' :: text.toList := by
    simp
  rw [pieces, htext, Text.splitAt_append_cons, List.getLast?_append,
    Option.or_of_isSome (List.getLast?_isSome.2 (Text.splitAt_ne_nil '/' text.toList)), pieces]

/-- Joining a path to another does not change how it ends. -/
theorem getLast?_pieces_join (base path : Path) :
    (base.join path).pieces.getLast? = path.pieces.getLast? := by
  rw [join]
  split
  · rfl
  · split
    · next h =>
      rw [Bool.or_eq_true, decide_eq_true_iff, decide_eq_true_iff] at h
      rcases h with h | h
      · rw [h, String.empty_append]
      · obtain ⟨before, hbefore⟩ := List.getLast?_eq_some_iff.1 h
        have hbase : base.text = String.ofList before ++ "/" := by
          rw [← String.ofList_toList (s := base.text), hbefore, String.ofList_append]
        rw [hbase, getLast?_pieces_append]
    · rw [← String.ofList_toList (s := base.text), getLast?_pieces_append]

/-- The last piece of a path is a name. -/
def EndsInName (path : Path) : Prop :=
  ∃ name, path.pieces.getLast? = some name ∧ name ≠ [] ∧ name ≠ ['.'] ∧ name ≠ ['.', '.']

namespace EndsInName

theorem join (base : Path) (h : path.EndsInName) : (base.join path).EndsInName := by
  obtain ⟨name, hlast, hname⟩ := h
  exact ⟨name, (getLast?_pieces_join base path).trans hlast, hname⟩

theorem kept (h : path.EndsInName) : path.kept = path.pieces.reverse := by
  obtain ⟨name, hlast, hempty, hdot, -⟩ := h
  obtain ⟨before, hbefore⟩ := List.getLast?_eq_some_iff.1 hlast
  have hcomponent : (innerComponent? name).isSome :=
    Option.isSome_iff_ne_none.2 fun hnone =>
      (innerComponent?_eq_none_iff.1 hnone).elim hempty hdot
  rw [Path.kept, hbefore, List.reverse_append]
  cases before.reverse with
  | nil => exact if_neg hempty
  | cons piece rest => exact if_pos hcomponent

theorem isTrimmed (h : path.EndsInName) : path.IsTrimmed := by
  rw [IsTrimmed, h.kept, List.reverse_reverse, names]

theorem exists_parent (h : path.EndsInName) : ∃ parent, path.parent? = some parent := by
  refine Option.ne_none_iff_exists'.1 fun hnone => path.pieces_ne_nil ?_
  rw [parent?_eq_none_iff, h.kept] at hnone
  exact List.reverse_eq_nil_iff.1 hnone

end EndsInName

end Path

end FunctionForge
