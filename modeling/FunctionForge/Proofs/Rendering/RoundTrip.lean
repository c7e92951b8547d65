import FunctionForge.Proofs.Rendering.Unresolved
import FunctionForge.Proofs.Symbol.Table
import FunctionForge.Proofs.TypeExpr.Grammar

/-!
# Rendered types are read back

A type whose names resolve is rendered as a layout of the same type with qualified names, so this is
what its text is read as. Qualified names resolve to themselves, so rendering once more changes
nothing.
-/

namespace FunctionForge

/-! ### Replacing names -/

mutual

/-- The type with another name in place of each name. -/
def TypeRef.mapNames (f : String → String) : TypeRef → TypeRef
  | .mk name nullable arguments => .mk (f name) nullable (TypeArg.mapNamesOf f arguments)

def TypeArg.mapNames (f : String → String) : TypeArg → TypeArg
  | .star => .star
  | .projected projection type => .projected projection (type.mapNames f)

def TypeArg.mapNamesOf (f : String → String) : List TypeArg → List TypeArg
  | [] => []
  | argument :: rest => argument.mapNames f :: TypeArg.mapNamesOf f rest

end

/-- The qualified name of a name, or the name itself if it does not resolve. -/
def Resolver.qualified (resolver : Resolver) (name : String) : String :=
  (resolver name).getD name

namespace TypeExpr

/-! ### Layouts with a blank in front -/

theorem WritesType.cons_blank {type : TypeRef} {text : List Char} {c : Char}
    (hblank : Text.isBlank c) (h : WritesType type text) : WritesType type (c :: text) := by
  cases h with
  | type hgap hname hclause hmark => exact .type (hgap.cons hblank) hname hclause hmark

theorem WritesArgument.cons_blank {argument : TypeArg} {text : List Char} {c : Char}
    (hblank : Text.isBlank c) (h : WritesArgument argument text) :
    WritesArgument argument (c :: text) := by
  cases h with
  | star hgap => exact .star (hgap.cons hblank)
  | invariant htype => exact .invariant (htype.cons_blank hblank)
  | covariant hgap hgap' htype => exact .covariant (hgap.cons hblank) hgap' htype
  | contravariant hgap hgap' htype => exact .contravariant (hgap.cons hblank) hgap' htype

end TypeExpr

namespace Rendering

open TypeExpr

/-! ### Slots are layouts -/

/-- Arguments that are written slot by slot. -/
abbrev WritesSlots (arguments : List TypeArg) (slots : List String) : Prop :=
  List.Forall₂ (fun argument slot => WritesArgument argument slot.toList) arguments slots

/-- The slots after the first one, each behind a separator, and the closing mark. -/
def following (slots : List String) : String :=
  String.join (slots.map (", " ++ ·)) ++ ">"

theorem intercalate_eq_following (first : String) (rest : List String) :
    ", ".intercalate (first :: rest) ++ ">" = first ++ following rest := by
  induction rest generalizing first with
  | nil => simp [following]
  | cons second rest ih =>
    rw [String.intercalate_cons_cons, String.append_assoc, ih]
    simp [following, String.append_assoc]

theorem writesRest_following {arguments : List TypeArg} {slots : List String}
    (h : WritesSlots arguments slots) : WritesRest arguments (following slots).toList := by
  induction h with
  | nil => exact .closing IsGap.nil
  | @cons argument slot arguments slots hslot _ ih =>
    have htext : (following (slot :: slots)).toList =
        [] ++ ',' :: (' ' :: slot.toList ++ (following slots).toList) := by
      simp [following]
    rw [htext]
    exact .comma IsGap.nil (hslot.cons_blank (by decide)) ih

theorem writesClause_enclosed {arguments : List TypeArg} {slots : List String}
    (h : WritesSlots arguments slots) : WritesClause arguments (enclosed slots).toList := by
  cases h with
  | nil => exact .nothing
  | @cons argument slot arguments slots hslot hrest =>
    have htext : (enclosed (slot :: slots)).toList =
        [] ++ '<' :: (slot.toList ++ (following slots).toList) := by
      rw [enclosed, if_neg (List.cons_ne_nil _ _), String.append_assoc, intercalate_eq_following]
      simp
    rw [htext]
    exact .opening IsGap.nil hslot (writesRest_following hrest)

theorem writesMark_mark (nullable : Bool) : WritesMark nullable (mark nullable).toList := by
  cases nullable with
  | false => exact .plain
  | true => exact .nullable IsGap.nil

theorem writesArgument_star : WritesArgument .star "*".toList := .star IsGap.nil

/-- A name with a clause and a mark behind it is a layout of the type that they make up. -/
theorem writesType_of_parts {name clause : String} {arguments : List TypeArg}
    (hname : IsName name.toList) (hclause : WritesClause arguments clause.toList)
    (nullable : Bool) :
    WritesType (.mk name nullable arguments) (name ++ clause ++ mark nullable).toList := by
  have htype := WritesType.type IsGap.nil hname hclause (writesMark_mark nullable)
  simpa using htype

theorem writesArgument_of_type {type : TypeRef} {text : String} (projection : Projection)
    (htype : WritesType type text.toList) :
    WritesArgument (.projected projection type) (projectionWord projection ++ text).toList := by
  cases projection with
  | invariant =>
    rw [projectionWord, String.empty_append]
    exact .invariant htype
  | covariant =>
    have hargument := WritesArgument.covariant (c := ' ') IsGap.nil (by decide) htype
    simpa [projectionWord] using hargument
  | contravariant =>
    have hargument := WritesArgument.contravariant (c := ' ') IsGap.nil (by decide) htype
    simpa [projectionWord] using hargument

section Resolver

variable {resolver : Resolver}

mutual

theorem writesArgument_slot
    (hnames : ∀ name qualified, resolver name = some qualified → IsName qualified.toList)
    (argument : TypeArg) (hresolve : ∀ name ∈ argument.names, (resolver name).isSome) :
    WritesArgument (argument.mapNames resolver.qualified)
      (slot resolver false argument).toList := by
  cases argument with
  | star =>
    rw [TypeArg.mapNames, slot]
    exact writesArgument_star
  | projected projection type =>
    cases type with
    | mk name nullable arguments =>
      rw [TypeArg.names, TypeRef.names, List.forall_mem_cons] at hresolve
      obtain ⟨hname, harguments⟩ := hresolve
      obtain ⟨qualified, hqualified⟩ := Option.isSome_iff_exists.1 hname
      have hclause := writesClause_enclosed (writesSlots_slots hnames arguments harguments)
      have htype := writesType_of_parts (hnames name qualified hqualified) hclause nullable
      have htext : slot resolver false (.projected projection (.mk name nullable arguments)) =
          projectionWord projection ++
            (qualified ++ enclosed (slots resolver false arguments) ++ mark nullable) := by
        simp [slot, hqualified, String.append_assoc]
      rw [htext, TypeArg.mapNames, TypeRef.mapNames, Resolver.qualified, hqualified]
      exact writesArgument_of_type projection htype

theorem writesSlots_slots
    (hnames : ∀ name qualified, resolver name = some qualified → IsName qualified.toList)
    (list : List TypeArg) (hresolve : ∀ name ∈ TypeArg.namesOf list, (resolver name).isSome) :
    WritesSlots (TypeArg.mapNamesOf resolver.qualified list) (slots resolver false list) := by
  cases list with
  | nil => exact .nil
  | cons argument rest =>
    rw [TypeArg.namesOf, List.forall_mem_append] at hresolve
    exact .cons (writesArgument_slot hnames argument hresolve.1)
      (writesSlots_slots hnames rest hresolve.2)

end

theorem writesSlots_stars (list : List TypeArg) :
    WritesSlots (list.map fun _ => .star) (list.map fun _ => "*") := by
  induction list with
  | nil => exact .nil
  | cons argument rest ih => exact .cons writesArgument_star ih

end Resolver

/-! ### Rendering replaced names -/

section Replaced

variable (resolver : Resolver) (f : String → String)

mutual

theorem slot_mapNames (argument : TypeArg) :
    slot resolver false (argument.mapNames f) = slot (fun name => resolver (f name)) false argument
    := by
  cases argument with
  | star => rfl
  | projected projection type =>
    cases type with
    | mk name nullable arguments =>
      simp only [TypeArg.mapNames, TypeRef.mapNames, slot, slots_mapNamesOf arguments]

theorem slots_mapNamesOf (list : List TypeArg) :
    slots resolver false (TypeArg.mapNamesOf f list) =
      slots (fun name => resolver (f name)) false list := by
  cases list with
  | nil => rfl
  | cons argument rest =>
    rw [TypeArg.mapNamesOf, slots, slots, slot_mapNames argument, slots_mapNamesOf rest]

end

mutual

theorem names_mapNames (argument : TypeArg) :
    (argument.mapNames f).names = argument.names.map f := by
  cases argument with
  | star => rfl
  | projected projection type =>
    cases type with
    | mk name nullable arguments =>
      simp only [TypeArg.mapNames, TypeRef.mapNames, TypeArg.names, TypeRef.names, List.map_cons,
        namesOf_mapNamesOf arguments]

theorem namesOf_mapNamesOf (list : List TypeArg) :
    TypeArg.namesOf (TypeArg.mapNamesOf f list) = (TypeArg.namesOf list).map f := by
  cases list with
  | nil => rfl
  | cons argument rest =>
    rw [TypeArg.mapNamesOf, TypeArg.namesOf, TypeArg.namesOf, List.map_append,
      names_mapNames argument, namesOf_mapNamesOf rest]

end

end Replaced

/-! ### Types -/

theorem type_eq_ok {resolver : Resolver} {suppress : Bool} {name qualified : String}
    (hname : resolver name = some qualified) (symbol : String) (nullable : Bool)
    (list : List TypeArg) :
    type resolver suppress symbol (.mk name nullable list) =
      .ok (qualified ++ clause resolver suppress list ++ mark nullable,
        clauseReports resolver suppress symbol list) := by
  simp only [type, hname, arguments_eq]
  rfl

end Rendering

namespace SymbolTable.Consistent

variable {table : SymbolTable}

theorem resolve?_qualified (htable : table.Consistent) (name : String) :
    table.resolve? (Resolver.qualified table.resolve? name) = table.resolve? name := by
  rw [Resolver.qualified]
  cases hname : table.resolve? name with
  | none => rwa [Option.getD_none]
  | some qualified => rw [Option.getD_some, htable.resolve?_resolved hname]

end SymbolTable.Consistent

namespace Rendering

open TypeExpr

/-- A type whose names resolve in a table that declarations and imports lead to is rendered without
reports. Its text is read as the type with qualified names, and that type is rendered as the same
text. With arguments suppressed only the name of the type need resolve, and each argument is read as
a star. -/
theorem type_is_read_back {table : SymbolTable} (htable : table.Reached) (symbol : String)
    (t : TypeRef) :
    ((∀ name ∈ t.names, (table.resolve? name).isSome) → ∃ text,
      type table.resolve? false symbol t = .ok (text, []) ∧
      parse text = .ok (t.mapNames (Resolver.qualified table.resolve?)) ∧
      type table.resolve? false symbol (t.mapNames (Resolver.qualified table.resolve?)) =
        .ok (text, [])) ∧
    (∀ qualified, table.resolve? t.name = some qualified → ∃ text,
      type table.resolve? true symbol t = .ok (text, []) ∧
      parse text = .ok (.mk qualified t.nullable (t.arguments.map fun _ => .star))) := by
  have hconsistent := htable.consistent
  have hnames : ∀ name qualified, table.resolve? name = some qualified → IsName qualified.toList :=
    fun _ _ => hconsistent.isName_of_resolve?
  cases t with
  | mk name nullable list =>
    refine ⟨fun hresolve => ?_, fun qualified hqualified => ?_⟩
    · rw [TypeRef.names, List.forall_mem_cons] at hresolve
      obtain ⟨hname, hlist⟩ := hresolve
      obtain ⟨qualified, hqualified⟩ := Option.isSome_iff_exists.1 hname
      have hclause := writesClause_enclosed (writesSlots_slots hnames list hlist)
      have htype := writesType_of_parts (hnames name qualified hqualified) hclause nullable
      have hagain : (fun name => table.resolve? (Resolver.qualified table.resolve? name)) =
          table.resolve? := funext hconsistent.resolve?_qualified
      have hmapped : (TypeRef.mk name nullable list).mapNames (Resolver.qualified table.resolve?) =
          .mk qualified nullable
            (TypeArg.mapNamesOf (Resolver.qualified table.resolve?) list) := by
        rw [TypeRef.mapNames, Resolver.qualified, hqualified, Option.getD_some]
      refine ⟨qualified ++ clause table.resolve? false list ++ mark nullable, ?_, ?_, ?_⟩
      · rw [type_eq_ok hqualified, clauseReports_eq_nil symbol list hlist]
      · rw [hmapped, parse_eq_ok_iff_isLayout]
        exact ⟨_, [], (List.append_nil _).symm, htype, IsGap.nil⟩
      · rw [hmapped, type_eq_ok (hconsistent.resolve?_resolved hqualified),
          clauseReports_eq_nil symbol _ fun other hother => ?_, clause, slots_mapNamesOf, hagain,
          clause]
        rw [namesOf_mapNamesOf] at hother
        obtain ⟨original, horiginal, rfl⟩ := List.mem_map.1 hother
        rw [hconsistent.resolve?_qualified]
        exact hlist original horiginal
    · rw [TypeRef.name_mk] at hqualified
      have hclause := writesClause_enclosed (writesSlots_stars list)
      have htype := writesType_of_parts (hnames name qualified hqualified) hclause nullable
      refine ⟨qualified ++ clause table.resolve? true list ++ mark nullable, ?_, ?_⟩
      · rw [type_eq_ok hqualified, clauseReports_suppressed]
      · rw [parse_eq_ok_iff_isLayout, clause_suppressed]
        exact ⟨_, [], (List.append_nil _).symm, htype, IsGap.nil⟩

/-- A map from an imported class to lists, read back with the name of every class in full. -/
theorem type_is_read_back_of_map :
    let table := (SymbolTable.standard "com.example").addImport "java.time.Instant"
    let t : TypeRef := .mk "Map" true [.projected .invariant (.mk "Instant" true []),
      .projected .covariant (.mk "List" false [.star])]
    table.Reached ∧ (∀ name ∈ t.names, (table.resolve? name).isSome) ∧
      ∃ text, type table.resolve? false "T.p" t = .ok (text, []) ∧
        parse text = .ok (.mk "kotlin.collections.Map" true
          [.projected .invariant (.mk "java.time.Instant" true []),
            .projected .covariant (.mk "kotlin.collections.List" false [.star])]) := by
  intro table t
  have htable : table.Reached := .addImport (.standard "com.example") (by decide +kernel)
  have hresolve : ∀ name ∈ t.names, (table.resolve? name).isSome := by decide +kernel
  have hmapped : t.mapNames (Resolver.qualified table.resolve?) = .mk "kotlin.collections.Map" true
      [.projected .invariant (.mk "java.time.Instant" true []),
        .projected .covariant (.mk "kotlin.collections.List" false [.star])] := by
    rfl
  obtain ⟨text, htext, hread, -⟩ := (type_is_read_back htable "T.p" t).1 hresolve
  exact ⟨htable, hresolve, text, htext, hmapped ▸ hread⟩

end Rendering

end FunctionForge
