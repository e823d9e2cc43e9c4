/-
# Codecs up to a canonical form

An encoder may normalise what it is given, so that a value does not come back as it was but as its
canonical form.  `Faithful` is what can then still be said: every encoding decodes to the canonical
form, and every decoded value can be encoded again.  `Trips` is what follows: a decoded value
survives the next trip exactly if it is canonical, and after one trip it is (`Faithful.trips`).
-/
import Mathlib.Tactic.Common

/-- An encoder and a decoder; `canon` is what becomes of a value, and `InRange` says that it is one
of the code's types. -/
structure Codec (V W : Type) where
  encode : V → Except String W
  decode : W → Except String V
  canon : V → V
  InRange : V → Prop

namespace Codec

variable {V W : Type} {c : Codec V W} {v : V} {w : W}

/-- **The codec loses nothing but the form.** -/
structure Faithful (c : Codec V W) : Prop where
  inRange : ∀ {w v}, c.decode w = .ok v → c.InRange v
  decode_encode : ∀ {v w}, c.InRange v → c.encode v = .ok w → c.decode w = .ok (c.canon v)
  reencodes : ∀ {w v}, c.decode w = .ok v → ∃ w', c.encode v = .ok w'
  canon_canon : ∀ v, c.canon (c.canon v) = c.canon v

/-- What becomes of a value on its way: encoded and decoded it is its canonical form; a decoded
value can be encoded again, and comes back the same exactly if it is canonical; and from then on
nothing changes. -/
structure Trips (c : Codec V W) : Prop where
  first : ∀ {v w}, c.InRange v → c.encode v = .ok w → c.decode w = .ok (c.canon v)
  again : ∀ {w v}, c.decode w = .ok v → ∃ w', c.encode v = .ok w' ∧
    c.decode w' = .ok (c.canon v) ∧ (c.decode w' = .ok v ↔ c.canon v = v)
  settled : ∀ {w v}, c.decode w = .ok v → ∃ w', c.encode (c.canon v) = .ok w' ∧
    c.decode w' = .ok (c.canon v)

theorem Faithful.again (h : c.Faithful) (hw : c.decode w = .ok v) :
    ∃ w', c.encode v = .ok w' ∧ c.decode w' = .ok (c.canon v) ∧
      (c.decode w' = .ok v ↔ c.canon v = v) := by
  obtain ⟨w', hw'⟩ := h.reencodes hw
  have hd := h.decode_encode (h.inRange hw) hw'
  refine ⟨w', hw', hd, ?_⟩
  rw [hd, Except.ok.injEq]

theorem Faithful.trips (h : c.Faithful) : c.Trips where
  first := h.decode_encode
  again := h.again
  settled := fun hw => by
    obtain ⟨w', -, hd, -⟩ := h.again hw
    obtain ⟨w'', hw'', hd', -⟩ := h.again hd
    exact ⟨w'', hw'', by rw [hd', h.canon_canon]⟩

end Codec
