import SessionNet.Cipher.XChaCha

/-!
# Sealed payloads open

The key stream is as long as a block, so applying it twice gives the bytes back. A payload that was
sealed therefore opens under the same key, whatever the nonce.
-/

namespace SessionNet.Cipher

namespace ChaCha20

theorem length_flatMap_wordBytes (ws : List UInt32) :
    (ws.flatMap wordBytes).length = 4 * ws.length := by
  induction ws with
  | nil => rfl
  | cons w ws ih =>
      have hword : (wordBytes w).length = 4 := rfl
      rw [List.flatMap_cons, List.length_append, hword, ih, List.length_cons]
      omega

theorem length_block (key : List UInt32) (counter : UInt32) (nonce : List UInt32) :
    (block key counter nonce).length = 64 := by
  rw [block, length_flatMap_wordBytes, Vector.length_toList]

theorem zipWith_xor_cancel {bs stream : Bytes} (h : bs.length ≤ stream.length) :
    List.zipWith (· ^^^ ·) (List.zipWith (· ^^^ ·) bs stream) stream = bs := by
  induction bs generalizing stream with
  | nil => rfl
  | cons b bs ih =>
      cases stream with
      | nil => simp at h
      | cons s stream =>
          have htail : bs.length ≤ stream.length := by
            simpa using h
          simp only [List.zipWith_cons_cons, ih htail]
          rw [UInt8.xor_assoc, UInt8.xor_self, UInt8.xor_zero]

variable {key nonce : List UInt32} {counter : UInt32}

theorem applyFrom_append (done older bs : Bytes) :
    applyFrom key nonce counter (done ++ older) bs =
      older.reverse ++ applyFrom key nonce counter done bs := by
  fun_induction applyFrom key nonce counter done bs with
  | case1 counter done =>
      rw [applyFrom]
      simp
  | case2 counter done bs hgo stream mixed ih =>
      rw [applyFrom, dif_neg hgo, ← ih]
      simp [mixed, stream, List.reverseAux_eq]

@[simp] theorem apply_nil : apply key nonce counter [] = [] := by
  rw [apply, applyFrom]
  rfl

/-- One block of the key stream serves the first 64 bytes. -/
theorem apply_eq_append {bs : Bytes} (h : bs ≠ []) :
    apply key nonce counter bs =
      List.zipWith (· ^^^ ·) bs (block key counter nonce)
        ++ apply key nonce (counter + 1) (bs.drop 64) := by
  let mixed := List.zipWith (· ^^^ ·) bs (block key counter nonce)
  have hdone :
      applyFrom key nonce (counter + 1) ([] ++ mixed.reverseAux []) (bs.drop 64) =
        (mixed.reverseAux []).reverse ++ applyFrom key nonce (counter + 1) [] (bs.drop 64) :=
    applyFrom_append [] _ _
  rw [apply, applyFrom, dif_neg h]
  simpa [List.reverseAux_eq, apply, mixed] using hdone

theorem apply_of_length_le {bs : Bytes} (h : bs.length ≤ 64) :
    apply key nonce counter bs = List.zipWith (· ^^^ ·) bs (block key counter nonce) := by
  by_cases hnil : bs = []
  · simp [hnil]
  · rw [apply_eq_append hnil, List.drop_eq_nil_iff.2 h, apply_nil, List.append_nil]

/-- A whole block in front is combined with its part of the key stream. -/
theorem apply_append {front : Bytes} (h : front.length = 64) (back : Bytes) :
    apply key nonce counter (front ++ back) =
      List.zipWith (· ^^^ ·) front (block key counter nonce)
        ++ apply key nonce (counter + 1) back := by
  have hne : front ++ back ≠ [] := by
    intro hnil
    have hlen := congrArg List.length hnil
    rw [List.length_append, h] at hlen
    simp at hlen
  -- the block is used up by what is in front
  have hcut :
      List.zipWith (· ^^^ ·) (front ++ back) (block key counter nonce ++ []) =
        List.zipWith (· ^^^ ·) front (block key counter nonce) ++
          List.zipWith (· ^^^ ·) back [] :=
    List.zipWith_append (by rw [h, length_block])
  rw [List.append_nil, List.zipWith_nil_right, List.append_nil] at hcut
  rw [apply_eq_append hne, hcut, ← h, List.drop_left]

/-- Applying the key stream twice gives the bytes back. -/
theorem apply_apply (key nonce : List UInt32) (counter : UInt32) (bs : Bytes) :
    apply key nonce counter (apply key nonce counter bs) = bs := by
  -- each block has a counter of its own, so the induction takes one block off the front
  induction hlen : bs.length using Nat.strongRecOn generalizing bs counter with
  | _ n ih =>
      have hblock := length_block key counter nonce
      by_cases hshort : bs.length ≤ 64
      · have hmixed :
            (List.zipWith (· ^^^ ·) bs (block key counter nonce)).length ≤ 64 := by
          rw [List.length_zipWith]
          omega
        rw [apply_of_length_le hshort, apply_of_length_le hmixed]
        exact zipWith_xor_cancel (by omega)
      · have hfront : (bs.take 64).length = 64 := by
          rw [List.length_take]
          omega
        have hmixed :
            (List.zipWith (· ^^^ ·) (bs.take 64) (block key counter nonce)).length = 64 := by
          rw [List.length_zipWith]
          omega
        have hback := ih (bs.drop 64).length (by rw [List.length_drop]; omega) (counter + 1)
          (bs.drop 64) rfl
        calc
          apply key nonce counter (apply key nonce counter bs)
              = apply key nonce counter
                  (apply key nonce counter (bs.take 64 ++ bs.drop 64)) := by
                rw [List.take_append_drop]
          _ = List.zipWith (· ^^^ ·)
                (List.zipWith (· ^^^ ·) (bs.take 64) (block key counter nonce))
                (block key counter nonce)
              ++ apply key nonce (counter + 1)
                  (apply key nonce (counter + 1) (bs.drop 64)) := by
                rw [apply_append hfront, apply_append hmixed]
          _ = bs.take 64 ++ bs.drop 64 := by
                rw [zipWith_xor_cancel (by omega), hback]
          _ = bs := List.take_append_drop 64 bs

end ChaCha20

namespace XChaCha

theorem length_tagOf (key nonce : List UInt32) (ciphertext : Bytes) :
    (tagOf key nonce ciphertext).length = tagLength :=
  Bytes.length_littleEndian 16 _

/-- A sealed payload comes apart at the nonce in front and at the tag behind. -/
theorem decrypt?_append (key : SecretKey) (nonce : Nonce) {ciphertext tag : Bytes}
    (htag : tag.length = tagLength) {streamKey streamNonce : List UInt32}
    (hstream : streamOf key nonce.bytes = (streamKey, streamNonce)) :
    decrypt? key (nonce.bytes ++ (ciphertext ++ tag)) =
      if tagOf streamKey streamNonce ciphertext == tag then
        some (ChaCha20.apply streamKey streamNonce 1 ciphertext)
      else none := by
  have hnonce : nonce.bytes.length = nonceLength := nonce.length_eq
  have hlong :
      ¬ (nonce.bytes ++ (ciphertext ++ tag)).length < nonceLength + tagLength := by
    rw [List.length_append, List.length_append, hnonce, htag]
    omega
  -- the tag is found by counting from the end
  have hbody : (ciphertext ++ tag).length - tagLength = ciphertext.length := by
    rw [List.length_append, htag]
    omega
  rw [decrypt?, if_neg hlong, List.take_left' hnonce, List.drop_left' hnonce]
  simp only [hbody, List.take_left, List.drop_left, hstream]

/-- What was sealed with a key opens with it. -/
theorem decrypt?_encrypt (key : SecretKey) (nonce : Nonce) (payload : Bytes) :
    decrypt? key (encrypt key nonce payload) = some payload := by
  rcases hstream : streamOf key nonce.bytes with ⟨streamKey, streamNonce⟩
  have hsealed :
      encrypt key nonce payload =
        nonce.bytes ++ (ChaCha20.apply streamKey streamNonce 1 payload
          ++ tagOf streamKey streamNonce (ChaCha20.apply streamKey streamNonce 1 payload)) := by
    simp [encrypt, hstream]
  rw [hsealed, decrypt?_append key nonce (length_tagOf _ _ _) hstream, beq_self_eq_true,
    if_pos rfl, ChaCha20.apply_apply]

end XChaCha

end SessionNet.Cipher
