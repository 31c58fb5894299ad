import SinkReporter.Text.Utf8
/-!
# Proofs.Text.Ascii — texts whose characters take one byte each

Such a text and its bytes are one and the same: each byte is the number of its character.
-/
namespace SinkReporter
namespace Text

theorem utf8EncodeChar_of_lt {c : Char} (h : c.toNat < 128) : String.utf8EncodeChar c = [UInt8.ofNat c.toNat] := by
  unfold String.utf8EncodeChar
  exact if_pos (Nat.le_of_lt_succ h)

theorem lt_of_utf8EncodeChar {c : Char} (h : ∀ b ∈ String.utf8EncodeChar c, b.toNat < 128) : c.toNat < 128 := by
  refine Nat.lt_of_not_le fun hc => ?_
  have hv : ¬ c.val.toNat ≤ 127 := Nat.not_le.2 hc
  unfold String.utf8EncodeChar at h
  dsimp only at h
  rw [if_neg hv] at h
  split at h
  · have := h _ List.mem_cons_self
    rw [UInt8.toNat_ofNat'] at this
    omega
  split at h
  · have := h _ List.mem_cons_self
    rw [UInt8.toNat_ofNat'] at this
    omega
  · have := h _ List.mem_cons_self
    rw [UInt8.toNat_ofNat'] at this
    omega

theorem toNat_ofNat_of_lt {n : Nat} (h : n < 128) : (Char.ofNat n).toNat = n := by
  have hv : n.isValidChar := .inl (Nat.lt_trans h (by decide))
  rw [Char.ofNat, dif_pos hv]
  rfl

/-- **The bytes of a text that is spelled out of bytes below 128.** -/
theorem bytes_ofList_map (data : Bytes) (h : ∀ b ∈ data, b.toNat < 128) :
    bytes (String.ofList (data.map fun b => Char.ofNat b.toNat)) = data := by
  unfold bytes
  rw [String.toList_ofList]
  induction data with
  | nil => rfl
  | cons b rest ih =>
    have hb := toNat_ofNat_of_lt (h b List.mem_cons_self)
    rw [List.map_cons, List.flatMap_cons, ih fun x hx => h x (List.mem_cons_of_mem b hx),
      utf8EncodeChar_of_lt (by rw [hb]; exact h b List.mem_cons_self), hb, UInt8.ofNat_toNat]
    rfl

/-- **A text whose bytes are all below 128 is spelled out of them.** -/
theorem ofList_map_bytes (s : String) (h : ∀ b ∈ bytes s, b.toNat < 128) :
    String.ofList ((bytes s).map fun b => Char.ofNat b.toNat) = s := by
  unfold bytes at h ⊢
  conv => rhs; rw [← String.ofList_toList (s := s)]
  congr 1
  generalize s.toList = cs at h ⊢
  induction cs with
  | nil => rfl
  | cons c rest ih =>
    have hc : c.toNat < 128 := lt_of_utf8EncodeChar fun b hb => h b (by
      rw [List.flatMap_cons]; exact List.mem_append_left _ hb)
    rw [List.flatMap_cons, List.map_append, ih fun b hb => h b (by
      rw [List.flatMap_cons]; exact List.mem_append_right _ hb), utf8EncodeChar_of_lt hc, List.map_singleton,
      UInt8.toNat_ofNat', Nat.mod_eq_of_lt (by omega), Char.ofNat_toNat]
    rfl

end Text
end SinkReporter
