import SessionNet.Proofs.Frame.Shape

/-!
# Reading in pieces

A stream arrives in pieces that the peer does not choose. This module shows that the messages read,
and the fault that ends the reading or else the state it ends in, depend on the bytes alone and not
on where the pieces were cut. Nothing is assumed of the bytes.

Draining a buffer that grew is draining it before and going on from there (`drain_append`); so
feeding pieces agrees with draining all of them at once (`feed_agrees_drain`).
-/

namespace SessionNet
namespace FrameDecoder

variable {d d' : FrameDecoder} {buffer rest : Bytes}

/-! ## One message -/

theorem decode_of_error {e : NetError} (h : d.takeFrame buffer = .error e) :
    d.decode buffer = ⟨d, buffer, .error e⟩ := by
  rw [decode]
  split <;> simp_all

theorem decode_of_none (h : d.takeFrame buffer = .ok none) :
    d.decode buffer = ⟨d, buffer, .ok none⟩ := by
  rw [decode]
  split <;> simp_all

theorem decode_of_absorbed {taken : Taken} (h : d.takeFrame buffer = .ok (some taken))
    (hpush : d.pushFrame taken.header taken.body = (d', .ok none)) :
    d.decode buffer = d'.decode taken.rest := by
  rw [decode]
  split <;> simp_all

theorem decode_of_answered {taken : Taken} {outcome : Except NetError (Option WireMessage)}
    (h : d.takeFrame buffer = .ok (some taken))
    (hpush : d.pushFrame taken.header taken.body = (d', outcome)) (hanswer : outcome ≠ .ok none) :
    d.decode buffer = ⟨d', taken.rest, outcome⟩ := by
  rw [decode]
  split
  · simp_all
  · simp_all
  · rename_i taken' htaken
    rw [h] at htaken
    cases htaken
    rw [hpush]
    split
    · simp_all
    · simp_all

/-- The decoder can do nothing before more bytes arrive. -/
def Waiting (d : FrameDecoder) (buffer : Bytes) : Prop :=
  d.decode buffer = ⟨d, buffer, .ok none⟩

theorem waiting_nil : d.Waiting [] := decode_of_none takeFrame_nil

/-- A message or a fault is the same when more bytes arrive. -/
theorem decode_append_of_answered (h : (d.decode buffer).outcome ≠ .ok none) (more : Bytes) :
    d.decode (buffer ++ more) =
      { d.decode buffer with rest := (d.decode buffer).rest ++ more } := by
  fun_induction decode d buffer with
  | case1 d buffer e herror => exact decode_of_error (takeFrame_append_of_error herror more)
  | case2 d buffer hnone => exact absurd rfl h
  | case3 d buffer taken htake d' hpush ih =>
      -- the frame only filled the assembly, and the answer comes from what follows it
      rw [decode_of_absorbed (takeFrame_append htake more) hpush]
      exact ih h
  | case4 d buffer taken htake d' outcome hanswer hpush =>
      exact decode_of_answered (takeFrame_append htake more) hpush h

/-- Frames that only fill the assembly are taken off once, whether or not more bytes arrive. -/
theorem decode_append_of_nothing (h : (d.decode buffer).outcome = .ok none) (more : Bytes) :
    d.decode (buffer ++ more) =
      (d.decode buffer).decoder.decode ((d.decode buffer).rest ++ more) := by
  fun_induction decode d buffer with
  | case1 d buffer e herror => cases h
  | case2 d buffer hnone => rfl
  | case3 d buffer taken htake d' hpush ih =>
      rw [decode_of_absorbed (takeFrame_append htake more) hpush]
      exact ih h
  | case4 d buffer taken htake d' outcome hanswer hpush =>
      exact absurd h hanswer

theorem waiting_of_nothing (h : (d.decode buffer).outcome = .ok none) :
    (d.decode buffer).decoder.Waiting (d.decode buffer).rest := by
  fun_induction decode d buffer with
  | case1 d buffer e herror => cases h
  | case2 d buffer hnone => exact decode_of_none hnone
  | case3 d buffer taken htake d' hpush ih => exact ih h
  | case4 d buffer taken htake d' outcome hanswer hpush => exact absurd h hanswer

/-! ## All messages of a buffer -/

theorem drain_of_error {e : NetError} (h : d.decode buffer = ⟨d', rest, .error e⟩) :
    d.drain buffer = ⟨d', rest, [], some e⟩ := by
  rw [drain]
  split <;> simp_all

theorem drain_of_nothing (h : d.decode buffer = ⟨d', rest, .ok none⟩) :
    d.drain buffer = ⟨d', rest, [], none⟩ := by
  rw [drain]
  split <;> simp_all

theorem drain_of_message {message : WireMessage}
    (h : d.decode buffer = ⟨d', rest, .ok (some message)⟩) :
    d.drain buffer =
      { d'.drain rest with messages := message :: (d'.drain rest).messages } := by
  rw [drain]
  split <;> simp_all

/-- Draining looks at the buffer only through decoding. -/
theorem drain_congr {buffer' : Bytes} (h : d.decode buffer = d'.decode buffer') :
    d.drain buffer = d'.drain buffer' := by
  rcases hdecode : d'.decode buffer' with ⟨d₁, rest, e | _ | message⟩
  · rw [drain_of_error (h.trans hdecode), drain_of_error hdecode]
  · rw [drain_of_nothing (h.trans hdecode), drain_of_nothing hdecode]
  · rw [drain_of_message (h.trans hdecode), drain_of_message hdecode]

/-- What draining leaves behind is waiting. -/
theorem waiting_drain (h : (d.drain buffer).fault = none) :
    (d.drain buffer).decoder.Waiting (d.drain buffer).rest := by
  fun_induction drain d buffer with
  | case1 d buffer d' rest e hdecode => cases h
  | case2 d buffer d' rest hdecode =>
      have hwaiting := waiting_of_nothing (show (d.decode buffer).outcome = .ok none by rw [hdecode])
      rw [hdecode] at hwaiting
      exact hwaiting
  | case3 d buffer d' rest message hdecode more ih => exact ih h

/-- Go on from what was drained with the bytes that arrive next; a fault is final. -/
def Drained.resume (r : Drained) (more : Bytes) : Drained :=
  match r.fault with
  | some _ => { r with rest := r.rest ++ more }
  | none =>
    let next := r.decoder.drain (r.rest ++ more)
    { next with messages := r.messages ++ next.messages }

/-- A buffer that grew is drained as before and then on from there. -/
theorem drain_append (d : FrameDecoder) (buffer more : Bytes) :
    d.drain (buffer ++ more) = (d.drain buffer).resume more := by
  fun_induction drain d buffer with
  | case1 d buffer d' rest e hdecode =>
      have hgrown := decode_append_of_answered (by rw [hdecode]; simp) more
      rw [hdecode] at hgrown
      rw [drain_of_error hgrown]
      rfl
  | case2 d buffer d' rest hdecode =>
      -- nothing came of the buffer, so nothing is lost by decoding from where that stopped
      have hgrown := decode_append_of_nothing (by rw [hdecode]) more
      rw [hdecode] at hgrown
      rw [drain_congr hgrown]
      rfl
  | case3 d buffer d' rest message hdecode tail ih =>
      have hgrown := decode_append_of_answered (by rw [hdecode]; simp) more
      rw [hdecode] at hgrown
      rw [drain_of_message hgrown, ih]
      -- one message in front changes nothing about how the rest is resumed
      rcases hfault : (d'.drain rest).fault with _ | e
      · simp [Drained.resume, tail, hfault]
      · simp [Drained.resume, tail, hfault]

/-! ## Pieces -/

/-- Two readings tell the same: the messages, and either the first fault or, if there is none, the
bytes left over and the decoder with its assembly. -/
def Drained.Agrees (r r' : Drained) : Prop :=
  r.messages = r'.messages ∧
    ((∃ e, r.fault = some e ∧ r'.fault = some e) ∨
      (r.fault = none ∧ r'.fault = none ∧ r.rest = r'.rest ∧ r.decoder = r'.decoder))

namespace Drained.Agrees

variable {r r' r'' : Drained}

theorem refl (r : Drained) : r.Agrees r := by
  rcases hfault : r.fault with _ | e
  · exact ⟨rfl, .inr ⟨hfault, hfault, rfl, rfl⟩⟩
  · exact ⟨rfl, .inl ⟨e, hfault, hfault⟩⟩

theorem symm (h : r.Agrees r') : r'.Agrees r := by
  rcases h with ⟨hmessages, ⟨e, he, he'⟩ | ⟨hnone, hnone', hrest, hdecoder⟩⟩
  · exact ⟨hmessages.symm, .inl ⟨e, he', he⟩⟩
  · exact ⟨hmessages.symm, .inr ⟨hnone', hnone, hrest.symm, hdecoder.symm⟩⟩

theorem trans (h : r.Agrees r') (h' : r'.Agrees r'') : r.Agrees r'' := by
  rcases h with ⟨hmessages, ⟨e, he, he'⟩ | ⟨hnone, hnone', hrest, hdecoder⟩⟩
  · rcases h' with ⟨hmessages', ⟨e', hf, hf'⟩ | ⟨hf, -⟩⟩
    · have hsame : e = e' := Option.some.inj (he'.symm.trans hf)
      exact ⟨hmessages.trans hmessages', .inl ⟨e, he, hsame ▸ hf'⟩⟩
    · rw [he'] at hf
      cases hf
  · rcases h' with ⟨hmessages', ⟨e', hf, -⟩ | ⟨-, hf', hrest', hdecoder'⟩⟩
    · rw [hnone'] at hf
      cases hf
    · exact ⟨hmessages.trans hmessages',
        .inr ⟨hnone, hf', hrest.trans hrest', hdecoder.trans hdecoder'⟩⟩

/-- Readings that agree still do so behind the same messages. -/
theorem prepend (h : r.Agrees r') (messages : List WireMessage) :
    Agrees { r with messages := messages ++ r.messages }
      { r' with messages := messages ++ r'.messages } :=
  ⟨congrArg (messages ++ ·) h.1, h.2⟩

/-- Readings that agree and end without a fault are the same. -/
theorem eq_of_fault_eq_none (h : r.Agrees r') (hfault : r'.fault = none) : r = r' := by
  rcases r with ⟨decoder, rest, messages, fault⟩
  rcases r' with ⟨decoder', rest', messages', fault'⟩
  rcases h with ⟨hmessages, ⟨e, he, he'⟩ | ⟨hnone, hnone', hrest, hdecoder⟩⟩
  · rw [hfault] at he'
    cases he'
  · cases hmessages
    cases hnone
    cases hnone'
    cases hrest
    cases hdecoder
    rfl

end Drained.Agrees

/-- Feeding pieces tells what draining all of them at once tells. Where no piece arrives nothing is
decoded, so the buffer must not hold what could be. -/
theorem feed_agrees_drain {pieces : List Bytes} (h : d.Waiting buffer ∨ pieces ≠ []) :
    (d.feed buffer pieces).Agrees (d.drain (buffer ++ pieces.flatten)) := by
  induction pieces generalizing d buffer with
  | nil =>
      have hwaiting : d.Waiting buffer := h.resolve_right (by simp)
      have hdrain := drain_of_nothing hwaiting
      rw [feed, List.flatten_nil, List.append_nil, hdrain]
      exact Drained.Agrees.refl _
  | cons piece pieces ih =>
      rw [feed, List.flatten_cons, ← List.append_assoc,
        drain_append d (buffer ++ piece) pieces.flatten]
      rcases hfault : (d.drain (buffer ++ piece)).fault with _ | e
      · -- the first piece is drained, and what it leaves is waiting for the others
        have htail := ih (.inl (waiting_drain hfault))
        simp only [Drained.resume, hfault]
        exact htail.prepend _
      · simp only [Drained.resume, hfault]
        exact ⟨rfl, .inl ⟨e, hfault, rfl⟩⟩

/--
How a byte string is cut into pieces makes no difference to what is read from it: the same messages,
and either the same first fault or the same bytes left over and the same assembly. The decoder
starts as it stands between reads; a buffer that could still be decoded makes no difference either
once there is a piece to set off the decoding.
-/
theorem feed_agrees_of_flatten_eq {pieces pieces' : List Bytes}
    (hstart : d.Waiting buffer ∨ (pieces ≠ [] ∧ pieces' ≠ []))
    (hcut : pieces.flatten = pieces'.flatten) :
    (d.feed buffer pieces).Agrees (d.feed buffer pieces') := by
  have hleft : (d.feed buffer pieces).Agrees (d.drain (buffer ++ pieces.flatten)) :=
    feed_agrees_drain (hstart.imp_right And.left)
  have hright : (d.feed buffer pieces').Agrees (d.drain (buffer ++ pieces'.flatten)) :=
    feed_agrees_drain (hstart.imp_right And.right)
  -- both agree with draining the same bytes at once
  rw [hcut] at hleft
  exact hleft.trans hright.symm

/-- A head frame of which three bytes were left over, cut inside its length and inside its body; the
byte behind it is no flag byte. -/
theorem feed_agrees_cut_head :
    (create 4 16).Waiting [4, 0, 0] ∧
      ((create 4 16).feed [4, 0, 0] [[0, 5, 0], [0, 0, 0, 3, 255]]).Agrees
        ((create 4 16).feed [4, 0, 0] [[0], [], [5, 0, 0, 0, 0], [3], [255]]) := by
  have hwaiting : (create 4 16).Waiting [4, 0, 0] := decode_of_none rfl
  exact ⟨hwaiting, feed_agrees_of_flatten_eq (.inl hwaiting) (by decide)⟩

end FrameDecoder
end SessionNet
