/-!
# Powers of two and ten

The two bases of all arithmetic on doubles and decimals.

## Main definitions

* `twoPow`, `tenPow` : the powers.
-/

namespace TableMapping

/-- A power of two. -/
def twoPow (n : Nat) : Nat := Nat.pow 2 n

/-- A power of ten. -/
def tenPow (n : Nat) : Nat := Nat.pow 10 n

end TableMapping
