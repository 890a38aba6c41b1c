import Sentinel.App.TelegramAdapters
import Sentinel.Loops

/-!
# Node operator ids as texts

The contracts number the node operators with 256 bits, and the plans name them by the decimal
texts of their numbers. The texts that a chat follows are read back as the numbers.
-/

namespace Sentinel

open Python TelegramNotificationHandler

/-- A number of 256 bits. -/
def IsUint256 (n : ℤ) : Prop :=
  0 ≤ n ∧ n < 2 ^ 256

instance (n : ℤ) : Decidable (IsUint256 n) :=
  inferInstanceAs (Decidable (_ ∧ _))

/-- A number of 256 bits is read back from its text. -/
theorem IsUint256.int_toString {n : ℤ} (h : IsUint256 n) :
  int (toString n) = some n
  := by
  obtain ⟨hnonneg, hlt⟩ := h
  obtain ⟨k, rfl⟩ := Int.eq_ofNat_of_zero_le hnonneg
  have hpow : (2 : ℕ) ^ 256 ≤ 10 ^ maxStrDigits :=
    le_trans (by decide : (2 : ℕ) ^ 256 ≤ 10 ^ 78)
      (Nat.pow_le_pow_right (by decide) (by decide : 78 ≤ maxStrDigits))
  have hk : k < 2 ^ 256 := by exact_mod_cast hlt
  exact Python.int_toString (lt_of_lt_of_le hk hpow)

/-- Some of the texts of numbers are read back as the numbers of these texts. -/
theorem exists_mapM_int (order : SetOrder String) {ids : Finset ℤ}
    (hids : ∀ id ∈ ids, IsUint256 id) {texts : Finset String}
    (htexts : texts ⊆ ids.image toString) :
  ∃ read : List ℤ, (order.toList texts).mapM int = some read ∧ read.Nodup
    ∧ ∀ id, id ∈ read ↔ id ∈ ids ∧ toString id ∈ texts
  := by
  have htext : ∀ text ∈ texts, ∃ id ∈ ids, toString id = text := by
    intro text hmem
    apply Finset.mem_image.mp (htexts hmem)
  have hsome : (order.toList texts).mapM int ≠ none := by
    rw [ne_eq, Loops.mapM_eq_none_iff]
    rintro ⟨text, hmem, hnone⟩
    obtain ⟨id, hid, rfl⟩ := htext text ((order.mem_toList _ _).mp hmem)
    rw [(hids id hid).int_toString] at hnone
    cases hnone
  obtain ⟨read, hread⟩ := Option.ne_none_iff_exists'.mp hsome
  have hmap := Loops.mapM_eq_some_iff.mp hread
  have hmem : ∀ id, id ∈ read ↔ id ∈ ids ∧ toString id ∈ texts := by
    intro id
    have hsome : id ∈ read ↔ some id ∈ read.map some := by simp
    rw [hsome, ← hmap, List.mem_map]
    constructor
    · rintro ⟨text, hmem, hid⟩
      obtain ⟨id', hid', rfl⟩ := htext text ((order.mem_toList _ _).mp hmem)
      rw [(hids id' hid').int_toString] at hid
      obtain rfl := Option.some.inj hid
      exact ⟨hid', (order.mem_toList _ _).mp hmem⟩
    · rintro ⟨hid, hmem⟩
      exact ⟨toString id, (order.mem_toList _ _).mpr hmem, (hids id hid).int_toString⟩
  refine ⟨read, hread, ?_, hmem⟩
  have hnodup : ((order.toList texts).map int).Nodup := by
    apply (order.nodup texts).map_on
    intro text hmem text' hmem' heq
    obtain ⟨id, hid, rfl⟩ := htext text ((order.mem_toList _ _).mp hmem)
    obtain ⟨id', hid', rfl⟩ := htext text' ((order.mem_toList _ _).mp hmem')
    rw [(hids id hid).int_toString, (hids id' hid').int_toString] at heq
    rw [Option.some.inj heq]
  rw [hmap] at hnodup
  apply hnodup.of_map

end Sentinel
