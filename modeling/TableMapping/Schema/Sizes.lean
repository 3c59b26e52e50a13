/-!
# Implied sizes

The sizes that the server assumes for a type that is declared without them.

## Main definitions

* `ImpliedSizes` : the sizes.
* `ImpliedSizes.of?` : the sizes of a type by its name.
-/

namespace TableMapping

/-- The sizes that a type has without being told. -/
structure ImpliedSizes where
  length : Option UInt32
  width : Option UInt32
  precision : Option UInt32
  scale : Option UInt32
deriving DecidableEq

namespace ImpliedSizes

/-- No sizes at all. -/
def none : ImpliedSizes := ⟨.none, .none, .none, .none⟩

/-- A length alone. -/
def ofLength (n : UInt32) : ImpliedSizes := { none with length := some n }

/-- A display width alone. -/
def ofWidth (n : UInt32) : ImpliedSizes := { none with width := some n }

/-- A precision, and a scale if there is one. -/
def ofPrecision (n : UInt32) (scale : Option UInt32) : ImpliedSizes :=
  { none with precision := some n, scale := scale }

/-- The implied sizes of the types that have any. -/
def table : List (List String × ImpliedSizes) := [
  (["varchar", "nvarchar", "national varchar", "varbinary"], ofLength 255),
  (["char", "nchar", "national char", "binary"], ofLength 1),
  (["decimal", "dec", "numeric", "fixed"], ofPrecision 10 (some 0)),
  (["float"], ofPrecision 12 .none),
  (["double"], ofPrecision 22 .none),
  (["time", "datetime", "timestamp"], ofPrecision 0 .none),
  (["bit"], ofWidth 1),
  (["int", "integer"], ofWidth 11),
  (["tinyint"], ofWidth 4),
  (["smallint"], ofWidth 6),
  (["mediumint"], ofWidth 9),
  (["bigint"], ofWidth 20),
  (["year"], ofWidth 4)]

/-- The implied sizes of a type by its lower-case name. -/
def of? (typeName : String) : Option ImpliedSizes :=
  (table.find? fun row => row.1.contains typeName).map (·.2)

end ImpliedSizes

end TableMapping
