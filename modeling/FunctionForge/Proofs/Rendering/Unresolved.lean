import FunctionForge.Proofs.Rendering.Clause

/-!
# Names that do not resolve

A name that a type mentions stands inside the types around it. Rendering goes no deeper at a name
that does not resolve, so what it reports are the names that dangle: they do not resolve, but all
names around them do. A name that does not resolve dangles or stands inside one that dangles, so
nothing is reported if and only if every name resolves.
-/

namespace FunctionForge

/-- A name at the place where a type mentions it, with the names of the types around that place, the
innermost one first. -/
structure Mention where
  name : String
  enclosing : List String
  deriving DecidableEq, Repr

mutual

/-- The names that a type mentions in written order, if the type stands inside others. -/
def TypeRef.mentionsIn (enclosing : List String) : TypeRef → List Mention
  | .mk name _ arguments =>
    ⟨name, enclosing⟩ :: TypeArg.mentionsOf (name :: enclosing) arguments

def TypeArg.mentionsIn (enclosing : List String) : TypeArg → List Mention
  | .star => []
  | .projected _ type => type.mentionsIn enclosing

def TypeArg.mentionsOf (enclosing : List String) : List TypeArg → List Mention
  | [] => []
  | argument :: rest => argument.mentionsIn enclosing ++ TypeArg.mentionsOf enclosing rest

end

def TypeRef.mentions (type : TypeRef) : List Mention := type.mentionsIn []

/-- Whether a name does not resolve while all names around it do. -/
def Mention.Dangles (resolver : Resolver) (mention : Mention) : Prop :=
  resolver mention.name = none ∧ ∀ name ∈ mention.enclosing, (resolver name).isSome

instance (resolver : Resolver) : DecidablePred (Mention.Dangles resolver) :=
  fun _ => inferInstanceAs (Decidable (_ ∧ _))

/-! ### The names around a name -/

mutual

theorem TypeArg.enclosing_subset (enclosing : List String) (argument : TypeArg) :
    ∀ mention ∈ argument.mentionsIn enclosing, enclosing ⊆ mention.enclosing := by
  cases argument with
  | star => exact List.forall_mem_nil _
  | projected projection type =>
    cases type with
    | mk name nullable arguments =>
      rw [mentionsIn, TypeRef.mentionsIn, List.forall_mem_cons]
      refine ⟨List.Subset.refl _, fun mention hmem => ?_⟩
      have harguments := enclosing_subset_of (name :: enclosing) arguments mention hmem
      exact fun outer houter => harguments (List.mem_cons_of_mem name houter)

theorem TypeArg.enclosing_subset_of (enclosing : List String) (list : List TypeArg) :
    ∀ mention ∈ mentionsOf enclosing list, enclosing ⊆ mention.enclosing := by
  cases list with
  | nil => exact List.forall_mem_nil _
  | cons argument rest =>
    rw [mentionsOf, List.forall_mem_append]
    exact ⟨enclosing_subset enclosing argument, enclosing_subset_of enclosing rest⟩

end

mutual

theorem TypeArg.names_of_mentions (enclosing : List String) (argument : TypeArg) :
    (argument.mentionsIn enclosing).map Mention.name = argument.names := by
  cases argument with
  | star => rfl
  | projected projection type =>
    cases type with
    | mk name nullable arguments =>
      rw [mentionsIn, TypeRef.mentionsIn, List.map_cons,
        namesOf_of_mentions (name :: enclosing) arguments]
      rfl

theorem TypeArg.namesOf_of_mentions (enclosing : List String) (list : List TypeArg) :
    (mentionsOf enclosing list).map Mention.name = namesOf list := by
  cases list with
  | nil => rfl
  | cons argument rest =>
    rw [mentionsOf, List.map_append, names_of_mentions enclosing argument,
      namesOf_of_mentions enclosing rest, namesOf]

end

namespace Rendering

variable {resolver : Resolver}

section Dangling

variable {enclosing : List String}

/-- Inside a name that does not resolve no name dangles. -/
theorem filter_mentionsOf_eq_nil {outer : String} (houter : outer ∈ enclosing)
    (hunresolved : resolver outer = none) (list : List TypeArg) :
    (TypeArg.mentionsOf enclosing list).filter (Mention.Dangles resolver) = [] := by
  rw [List.filter_eq_nil_iff]
  intro mention hmem hdangles
  obtain ⟨-, hresolve⟩ := of_decide_eq_true hdangles
  have hsome := hresolve outer (TypeArg.enclosing_subset_of enclosing list mention hmem houter)
  rw [hunresolved] at hsome
  cases hsome

theorem filter_mentionsIn_of_unresolved {name : String} (hunresolved : resolver name = none)
    (henclosing : ∀ outer ∈ enclosing, (resolver outer).isSome) (nullable : Bool)
    (arguments : List TypeArg) :
    ((TypeRef.mk name nullable arguments).mentionsIn enclosing).filter
      (Mention.Dangles resolver) = [⟨name, enclosing⟩] := by
  have hdangles : Mention.Dangles resolver ⟨name, enclosing⟩ := ⟨hunresolved, henclosing⟩
  rw [TypeRef.mentionsIn, List.filter_cons_of_pos (by simpa using hdangles),
    filter_mentionsOf_eq_nil List.mem_cons_self hunresolved]

theorem filter_mentionsIn_of_resolved (enclosing : List String) {name qualified : String}
    (hresolves : resolver name = some qualified) (nullable : Bool) (arguments : List TypeArg) :
    ((TypeRef.mk name nullable arguments).mentionsIn enclosing).filter
        (Mention.Dangles resolver) =
      (TypeArg.mentionsOf (name :: enclosing) arguments).filter
        (Mention.Dangles resolver) := by
  have hdangles : ¬Mention.Dangles resolver ⟨name, enclosing⟩ := by
    rintro ⟨hnone, -⟩
    rw [hresolves] at hnone
    cases hnone
  rw [TypeRef.mentionsIn, List.filter_cons_of_neg (by simpa using hdangles)]

theorem forall_mem_cons_isSome {name qualified : String}
    (hresolves : resolver name = some qualified)
    (henclosing : ∀ outer ∈ enclosing, (resolver outer).isSome) :
    ∀ outer ∈ name :: enclosing, (resolver outer).isSome :=
  List.forall_mem_cons.2 ⟨Option.isSome_of_eq_some hresolves, henclosing⟩

end Dangling

mutual

/-- What is reported about an argument inside types that resolve are the names in it that dangle. -/
theorem slotReports_eq_dangling {enclosing : List String} (symbol : String)
    (henclosing : ∀ outer ∈ enclosing, (resolver outer).isSome) (argument : TypeArg) :
    slotReports resolver false symbol argument =
      ((argument.mentionsIn enclosing).filter (Mention.Dangles resolver)).map
        fun mention => invalidArgument mention.name symbol := by
  cases argument with
  | star => rfl
  | projected projection type =>
    cases type with
    | mk name nullable arguments =>
      rw [TypeArg.mentionsIn]
      cases hname : resolver name with
      | none =>
        rw [filter_mentionsIn_of_unresolved hname henclosing]
        simp [slotReports, hname]
      | some qualified =>
        rw [filter_mentionsIn_of_resolved enclosing hname, ← clauseReports_eq_dangling symbol
          (forall_mem_cons_isSome hname henclosing) arguments]
        simp [slotReports, hname]

theorem clauseReports_eq_dangling {enclosing : List String} (symbol : String)
    (henclosing : ∀ outer ∈ enclosing, (resolver outer).isSome) (list : List TypeArg) :
    clauseReports resolver false symbol list =
      ((TypeArg.mentionsOf enclosing list).filter (Mention.Dangles resolver)).map
        fun mention => invalidArgument mention.name symbol := by
  cases list with
  | nil => rfl
  | cons argument rest =>
    rw [clauseReports, TypeArg.mentionsOf, List.filter_append, List.map_append,
      slotReports_eq_dangling symbol henclosing argument,
      clauseReports_eq_dangling symbol henclosing rest]

end

mutual

/-- Inside types that resolve, a name that does not resolve stands in one that dangles. -/
theorem isSome_of_not_dangling {enclosing : List String}
    (henclosing : ∀ outer ∈ enclosing, (resolver outer).isSome) (argument : TypeArg)
    (h : (argument.mentionsIn enclosing).filter (Mention.Dangles resolver) = []) :
    ∀ name ∈ argument.names, (resolver name).isSome := by
  cases argument with
  | star => exact List.forall_mem_nil _
  | projected projection type =>
    cases type with
    | mk name nullable arguments =>
      rw [TypeArg.mentionsIn] at h
      rw [TypeArg.names, TypeRef.names, List.forall_mem_cons]
      cases hname : resolver name with
      | none =>
        rw [filter_mentionsIn_of_unresolved hname henclosing] at h
        cases h
      | some qualified =>
        rw [filter_mentionsIn_of_resolved enclosing hname] at h
        exact ⟨rfl, isSome_of_not_dangling_of (forall_mem_cons_isSome hname henclosing) arguments h⟩

theorem isSome_of_not_dangling_of {enclosing : List String}
    (henclosing : ∀ outer ∈ enclosing, (resolver outer).isSome) (list : List TypeArg)
    (h : (TypeArg.mentionsOf enclosing list).filter (Mention.Dangles resolver) = []) :
    ∀ name ∈ TypeArg.namesOf list, (resolver name).isSome := by
  cases list with
  | nil => exact List.forall_mem_nil _
  | cons argument rest =>
    rw [TypeArg.mentionsOf, List.filter_append, List.append_eq_nil_iff] at h
    rw [TypeArg.namesOf, List.forall_mem_append]
    exact ⟨isSome_of_not_dangling henclosing argument h.1,
      isSome_of_not_dangling_of henclosing rest h.2⟩

end

theorem filter_dangling_eq_nil {mentions : List Mention}
    (h : ∀ name ∈ mentions.map Mention.name, (resolver name).isSome) :
    mentions.filter (Mention.Dangles resolver) = [] := by
  rw [List.filter_eq_nil_iff]
  intro mention hmem hdangles
  obtain ⟨hnone, -⟩ := of_decide_eq_true hdangles
  have hsome := h mention.name (List.mem_map_of_mem hmem)
  rw [hnone] at hsome
  cases hsome

theorem clauseReports_eq_nil (symbol : String) (list : List TypeArg)
    (hresolve : ∀ name ∈ TypeArg.namesOf list, (resolver name).isSome) :
    clauseReports resolver false symbol list = [] := by
  rw [clauseReports_eq_dangling symbol (List.forall_mem_nil _) list,
    filter_dangling_eq_nil, List.map_nil]
  rwa [TypeArg.namesOf_of_mentions]

/-- A type has no name that dangles if and only if all its names resolve. -/
theorem filter_mentions_eq_nil_iff (type : TypeRef) :
    type.mentions.filter (Mention.Dangles resolver) = [] ↔
      ∀ name ∈ type.names, (resolver name).isSome := by
  constructor
  · exact isSome_of_not_dangling (List.forall_mem_nil _)
      (.projected .invariant type)
  · intro h
    apply filter_dangling_eq_nil
    have hnames : type.mentions.map Mention.name = type.names :=
      TypeArg.names_of_mentions [] (.projected .invariant type)
    rwa [hnames]

end Rendering

end FunctionForge
