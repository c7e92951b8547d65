import Mathlib.Data.List.Forall2
import Mathlib.Data.List.Nodup

/-!
# Lists and lists of pairs

A list is parted at its first element with a property, and two lists whose elements are told apart by
a function are told apart by their images. A key in a list of pairs stands for the value of its first
pair, which is the only one if no key occurs twice.
-/

namespace FunctionForge

section Parts

variable {α β : Type} {P : α → Prop}

theorem exists_first {list : List α} (h : ¬∀ a ∈ list, ¬P a) :
    ∃ before a after, list = before ++ a :: after ∧ P a ∧ ∀ earlier ∈ before, ¬P earlier := by
  classical
  have hfound : (list.find? fun a => P a).isSome := by simpa using h
  obtain ⟨a, ha⟩ := Option.isSome_iff_exists.1 hfound
  obtain ⟨hP, before, after, hlist, hbefore⟩ := List.find?_eq_some_iff_append.1 ha
  exact ⟨before, a, after, hlist, of_decide_eq_true hP, by simpa using hbefore⟩

/-- The first element without a property parts two lists in one way. -/
theorem append_cons_inj {first second : List α} {a b : α} {rest others : List α}
    (hfirst : ∀ x ∈ first, P x) (hsecond : ∀ x ∈ second, P x) (ha : ¬P a) (hb : ¬P b)
    (h : first ++ a :: rest = second ++ b :: others) : first = second ∧ a = b ∧ rest = others := by
  induction first generalizing second with
  | nil =>
    cases second with
    | nil => exact ⟨rfl, List.cons.inj h⟩
    | cons x second => exact absurd ((List.cons.inj h).1 ▸ hsecond x List.mem_cons_self) ha
  | cons x first ih =>
    obtain ⟨hx, hfirst⟩ := List.forall_mem_cons.1 hfirst
    cases second with
    | nil => exact absurd ((List.cons.inj h).1 ▸ hx) hb
    | cons y second =>
      obtain ⟨rfl, htail⟩ := List.cons.inj h
      obtain ⟨rfl, hrest⟩ := ih hfirst (List.forall_mem_cons.1 hsecond).2 htail
      exact ⟨rfl, hrest⟩

theorem map_eq_map_of_forall₂ {R : α → α → Prop} {f : α → β} (hf : ∀ a b, R a b → f a = f b)
    {left right : List α} (h : List.Forall₂ R left right) : left.map f = right.map f := by
  rw [← List.forall₂_eq_eq_eq, List.forall₂_map_left_iff, List.forall₂_map_right_iff]
  exact h.imp hf

theorem map_inj_on {f : α → β} (hf : ∀ a b, P a → P b → f a = f b → a = b)
    {first second : List α} (hfirst : ∀ a ∈ first, P a) (hsecond : ∀ a ∈ second, P a)
    (h : first.map f = second.map f) : first = second := by
  induction first generalizing second with
  | nil => exact (List.map_eq_nil_iff.1 h.symm).symm
  | cons a first ih =>
    cases second with
    | nil => cases h
    | cons b second =>
      obtain ⟨ha, hfirst⟩ := List.forall_mem_cons.1 hfirst
      obtain ⟨hb, hsecond⟩ := List.forall_mem_cons.1 hsecond
      obtain ⟨hab, hrest⟩ := List.cons.inj h
      rw [hf a b ha hb hab, ih hfirst hsecond hrest]

end Parts

section Pairs

variable {β : Type} {entries : List (String × β)} {key : String} {value : β}

theorem lookup_cons_of_ne {name : String} (h : key ≠ name) :
    ((name, value) :: entries).lookup key = entries.lookup key := by
  rw [List.lookup_cons, beq_false_of_ne h]

theorem mem_of_lookup (h : entries.lookup key = some value) : (key, value) ∈ entries := by
  obtain ⟨before, after, rfl, -⟩ := List.lookup_eq_some_iff.1 h
  exact List.mem_append_right before List.mem_cons_self

theorem lookup_eq_none_iff_not_mem : entries.lookup key = none ↔ key ∉ entries.map Prod.fst := by
  rw [List.lookup_eq_none_iff, List.mem_map]
  constructor
  · rintro hnone ⟨pair, hpair, rfl⟩
    exact bne_iff_ne.1 (hnone pair hpair) rfl
  · intro hkey pair hpair
    exact bne_iff_ne.2 fun hsame => hkey ⟨pair, hpair, hsame.symm⟩

theorem lookup_eq_some_iff_of_nodup (h : (entries.map Prod.fst).Nodup) :
    entries.lookup key = some value ↔ (key, value) ∈ entries := by
  refine ⟨mem_of_lookup, fun hmem => ?_⟩
  have hsome : (entries.lookup key).isSome :=
    List.lookup_isSome_iff.2 ⟨(key, value), hmem, beq_self_eq_true key⟩
  obtain ⟨other, hother⟩ := Option.isSome_iff_exists.1 hsome
  rw [hother]
  have hsame := List.inj_on_of_nodup_map h hmem (mem_of_lookup hother) rfl
  exact congrArg (some ·.2) hsame.symm

/-- The value that was given last is the first one from behind. -/
theorem lookup_reverse_eq_some_iff : entries.reverse.lookup key = some value ↔
    ∃ before after, entries = before ++ (key, value) :: after ∧ key ∉ after.map Prod.fst := by
  simp only [List.lookup_eq_some_iff, ← List.lookup_eq_none_iff, lookup_eq_none_iff_not_mem]
  constructor
  · rintro ⟨after, before, hentries, hlast⟩
    refine ⟨before.reverse, after.reverse, ?_, by simpa using hlast⟩
    rw [← List.reverse_reverse entries, hentries]
    simp
  · rintro ⟨before, after, rfl, hlast⟩
    exact ⟨after.reverse, before.reverse, by simp, by simpa using hlast⟩

theorem lookup_reverse_eq_none_iff :
    entries.reverse.lookup key = none ↔ key ∉ entries.map Prod.fst := by
  rw [lookup_eq_none_iff_not_mem, List.map_reverse, List.mem_reverse]

end Pairs

end FunctionForge
