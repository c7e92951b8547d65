import FunctionForge.Function
import FunctionForge.Proofs.Rendering.RoundTrip
import FunctionForge.Proofs.Text.Lines

/-!
# What the parts of a rendered type have in common

A rendered type is made of the names that the resolver gives and of marks between them, also where
some of its names do not resolve. What the marks have, and texts put together keep, the type has if
the names have it. So it stands on one line: neither names nor marks have a newline.
-/

namespace FunctionForge

open Text

namespace TypeExpr

theorem IsSegment.part_of_mem {segment : List Char} {c : Char} (h : IsSegment segment)
    (hc : c ∈ segment) : IsSegmentPart c := by
  cases segment with
  | nil => cases hc
  | cons first rest =>
    rcases List.mem_cons.1 hc with rfl | hc
    · exact (isSegmentStart_iff.1 h.1).1
    · exact h.2 c hc

theorem oneLine_of_isSegment {name : String} (h : IsSegment name.toList) : OneLine name :=
  fun hmem => absurd (h.part_of_mem hmem) (by decide +kernel)

theorem oneLine_of_isName {name : String} (h : IsName name.toList) : OneLine name :=
  fun hmem => (h.part_or_dot_of_mem hmem).elim (by decide +kernel) (by decide)

end TypeExpr

/-- Whatever a resolver finds is a dotted identifier. -/
def Resolver.FindsNames (resolver : Resolver) : Prop :=
  ∀ name qualified, resolver name = some qualified → TypeExpr.IsName qualified.toList

namespace Rendering

variable {resolver : Resolver} {suppress : Bool} {P : String → Prop}

/-- A property of texts that the marks of rendered types have, and that texts put together have if
each of them does. -/
structure Carries (P : String → Prop) : Prop where
  append {first second : String} (hfirst : P first) (hsecond : P second) : P (first ++ second)
  gap : P ""
  star : P "*"
  separator : P ", "
  word (projection : Projection) : P (projectionWord projection)
  mark (nullable : Bool) : P (mark nullable)
  clause {text : String} (h : P text) : P ("<" ++ text ++ ">")

theorem Carries.intercalate (hP : Carries P) {slots : List String} (h : ∀ slot ∈ slots, P slot) :
    P (", ".intercalate slots) := by
  induction slots with
  | nil => exact hP.gap
  | cons slot rest ih =>
    obtain ⟨hslot, hrest⟩ := List.forall_mem_cons.1 h
    cases rest with
    | nil => rwa [String.intercalate_singleton]
    | cons other others =>
      rw [String.intercalate_cons_cons]
      exact hP.append (hP.append hslot hP.separator) (ih hrest)

theorem Carries.holds_enclosed (hP : Carries P) {slots : List String} (h : ∀ slot ∈ slots, P slot) :
    P (enclosed slots) := by
  rw [enclosed]
  split
  · exact hP.gap
  · exact hP.clause (hP.intercalate h)

mutual

theorem Carries.holds_slot (hP : Carries P) (argument : TypeArg)
    (h : ∀ name ∈ argument.names, ∀ qualified, resolver name = some qualified → P qualified) :
    P (slot resolver suppress argument) := by
  cases argument with
  | star => exact hP.star
  | projected projection type =>
    cases type with
    | mk name nullable arguments =>
      obtain ⟨hname, harguments⟩ := List.forall_mem_cons.1 h
      rw [slot]
      split
      · exact hP.star
      · split
        · next qualified hresolves =>
          have hclause := hP.holds_enclosed (hP.holds_slots arguments harguments)
          exact hP.append (hP.append (hP.append (hP.word projection) (hname qualified hresolves))
            hclause) (hP.mark nullable)
        · exact hP.gap

theorem Carries.holds_slots (hP : Carries P) (list : List TypeArg)
    (h : ∀ name ∈ TypeArg.namesOf list, ∀ qualified, resolver name = some qualified →
      P qualified) :
    ∀ text ∈ slots resolver suppress list, P text := by
  cases list with
  | nil => exact fun text htext => absurd htext List.not_mem_nil
  | cons argument rest =>
    obtain ⟨hargument, hrest⟩ := List.forall_mem_append.1 h
    exact List.forall_mem_cons.2 ⟨hP.holds_slot argument hargument, hP.holds_slots rest hrest⟩

end

theorem Carries.holds_type (hP : Carries P) {symbol text : String} {t : TypeRef}
    {log : DiagnosticLog}
    (hnames : ∀ name ∈ t.names, ∀ qualified, resolver name = some qualified → P qualified)
    (h : type resolver suppress symbol t = .ok (text, log)) : P text := by
  obtain ⟨name, nullable, list⟩ := t
  obtain ⟨hname, hlist⟩ := List.forall_mem_cons.1 hnames
  cases hresolves : resolver name with
  | none =>
    simp only [type, hresolves] at h
    cases h
  | some qualified =>
    rw [type_eq_ok hresolves] at h
    cases h
    have hslots : ∀ slot ∈ slots resolver suppress list, P slot := hP.holds_slots list hlist
    exact hP.append (hP.append (hname qualified hresolves) (hP.holds_enclosed hslots))
      (hP.mark nullable)

theorem carries_oneLine : Carries OneLine where
  append hfirst hsecond := oneLine_append_iff.2 ⟨hfirst, hsecond⟩
  gap := by decide
  star := by decide
  separator := by decide
  word projection := by cases projection <;> decide
  mark nullable := by cases nullable <;> decide
  clause h := oneLine_append_iff.2 ⟨oneLine_append_iff.2 ⟨by decide, h⟩, by decide⟩

end Rendering

/-- What all that the names of a type resolve to have, its text has. -/
theorem Property.holds_renderedType {P : String → Prop} (hP : Rendering.Carries P)
    {resolver : Resolver} {options : Options} {owner type : String} {property : Property}
    (hnames : ∀ name ∈ property.type.names, ∀ qualified, resolver name = some qualified →
      P qualified)
    (h : (property.renderedType resolver options owner).1 = some type) : P type := by
  rw [renderedType] at h
  split at h
  · next htype =>
    cases h
    exact hP.holds_type hnames htype
  · cases h

end FunctionForge
