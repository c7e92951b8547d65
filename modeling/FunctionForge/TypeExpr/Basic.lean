/-!
# Type expressions

A type reference is a type as it is written at a use site, such as `Map<String, out List<*>>?`. Its
name is kept as written. An argument is a star or a projected type, so a star carries no type.
-/

namespace FunctionForge

/-- How the type of a generic argument may be used. -/
inductive Projection where
  | invariant
  | covariant
  | contravariant
  deriving DecidableEq, Repr

mutual

/-- A type as written: its name, whether it is nullable, and its generic arguments in order. -/
inductive TypeRef where
  | mk (name : String) (nullable : Bool) (arguments : List TypeArg)

/-- One slot of a generic argument list. -/
inductive TypeArg where
  | star
  | projected (projection : Projection) (type : TypeRef)

end

instance : Inhabited TypeRef := ⟨.mk "" false []⟩

namespace TypeRef

def name : TypeRef → String
  | mk name _ _ => name

/-- Whether the type is marked with `?`. -/
def nullable : TypeRef → Bool
  | mk _ nullable _ => nullable

/-- The generic arguments in written order. -/
def arguments : TypeRef → List TypeArg
  | mk _ _ arguments => arguments

@[simp] theorem name_mk (n : String) (q : Bool) (args : List TypeArg) : (mk n q args).name = n :=
  rfl

@[simp] theorem nullable_mk (n : String) (q : Bool) (args : List TypeArg) :
    (mk n q args).nullable = q := rfl

@[simp] theorem arguments_mk (n : String) (q : Bool) (args : List TypeArg) :
    (mk n q args).arguments = args := rfl

end TypeRef

mutual

/-- The names that a type mentions at any depth, in written order. -/
def TypeRef.names : TypeRef → List String
  | .mk name _ arguments => name :: TypeArg.namesOf arguments

/-- The names that an argument mentions. -/
def TypeArg.names : TypeArg → List String
  | .star => []
  | .projected _ type => type.names

def TypeArg.namesOf : List TypeArg → List String
  | [] => []
  | argument :: rest => argument.names ++ TypeArg.namesOf rest

end

/-- The variance of an argument slot: a projection, or a star. -/
inductive Variance where
  | invariant
  | covariant
  | contravariant
  | star
  deriving DecidableEq, Repr

def Projection.variance : Projection → Variance
  | invariant => .invariant
  | covariant => .covariant
  | contravariant => .contravariant

/-- The projection of a variance, none for a star. -/
def Variance.projection? : Variance → Option Projection
  | invariant => some .invariant
  | covariant => some .covariant
  | contravariant => some .contravariant
  | star => none

namespace TypeArg

/-- The argument of a variance and a type; a star drops the type. -/
def ofVariance (variance : Variance) (type : TypeRef) : TypeArg :=
  match variance.projection? with
  | some projection => .projected projection type
  | none => .star

def variance : TypeArg → Variance
  | star => .star
  | projected projection _ => projection.variance

/-- The projected type, none for a star. -/
def type? : TypeArg → Option TypeRef
  | star => none
  | projected _ type => some type

end TypeArg

end FunctionForge
