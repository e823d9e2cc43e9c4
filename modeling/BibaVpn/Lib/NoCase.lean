/-
# Lists of names, up to ASCII case

A list is extended by the names it does not have yet, where names that differ only in the case of
ASCII letters are one.  `extend_spec` says what is appended, and that nothing is missing then.
-/
import BibaVpn.Lib.Text

namespace NoCase

/-- One of the names is `t`, up to ASCII case. -/
def has (v : List Text) (t : Text) : Bool := v.any fun x => Text.eqIgnoreAsciiCase x t

/-- Append a name, unless it is empty or there. -/
def pushNew (v : List Text) (t : Text) : List Text := if t.isEmpty || has v t then v else v ++ [t]

def extend (v ts : List Text) : List Text := ts.foldl pushNew v

/-- Names that are new one after the other. -/
def Fresh (v : List Text) : List Text → Prop
  | [] => True
  | t :: ts => t ≠ [] ∧ has v t = false ∧ Fresh (v ++ [t]) ts

theorem has_of_mem {v : List Text} {t : Text} (h : t ∈ v) : has v t = true :=
  List.any_eq_true.mpr ⟨t, h, beq_self_eq_true _⟩

theorem has_mono {v w : List Text} {t : Text} (hvw : v ⊆ w) (h : has v t = true) :
    has w t = true := by
  obtain ⟨x, hx, heq⟩ := List.any_eq_true.mp h
  exact List.any_eq_true.mpr ⟨x, hvw hx, heq⟩

theorem extend_append (v ts us : List Text) : extend v (ts ++ us) = extend (extend v ts) us :=
  List.foldl_append

/-- **What is appended**: some of the names, each of them new, and every name is there then. -/
theorem extend_spec (v ts : List Text) : ∃ new, extend v ts = v ++ new ∧ new.Sublist ts ∧
    Fresh v new ∧ ∀ t ∈ ts, t ≠ [] → has (v ++ new) t = true := by
  induction ts generalizing v with
  | nil => exact ⟨[], (List.append_nil v).symm, .slnil, trivial,
      fun _ h => absurd h List.not_mem_nil⟩
  | cons t ts ih =>
    show ∃ new, extend (pushNew v t) ts = _ ∧ _
    rw [pushNew]
    by_cases hskip : (t.isEmpty || has v t) = true
    · rw [if_pos hskip]
      obtain ⟨new, heq, hsub, hfresh, hhas⟩ := ih v
      refine ⟨new, heq, hsub.cons t, hfresh, List.forall_mem_cons.mpr ⟨fun hne => ?_, hhas⟩⟩
      rw [Bool.or_eq_true, List.isEmpty_iff] at hskip
      exact has_mono (List.subset_append_left v new) (hskip.resolve_left hne)
    · rw [if_neg hskip]
      obtain ⟨new, heq, hsub, hfresh, hhas⟩ := ih (v ++ [t])
      rw [Bool.or_eq_true, not_or, List.isEmpty_iff, Bool.not_eq_true] at hskip
      rw [List.append_assoc] at heq hhas
      refine ⟨t :: new, heq, hsub.cons_cons t, ⟨hskip.1, hskip.2, hfresh⟩,
        List.forall_mem_cons.mpr ⟨fun _ => has_of_mem (by simp), hhas⟩⟩

end NoCase
