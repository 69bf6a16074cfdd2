import EventfoldDb.CanonicalRecords

/-! All three decoders wait for a head of fixed size, learn from it how long the whole is, wait
for the whole and only then judge it. Every later byte is therefore irrelevant: an answer
other than incomplete never changes, and a shorter input can only be incomplete. -/

namespace EventfoldDb.DecoderStability
open LittleEndian Outcome CodecRoundTrip CanonicalRecords

/-- What a caller may rely on while the buffer grows or shrinks at its end. -/
structure Stable {α : Type} (decode : List UInt8 → Outcome Error (DecodeOutcome α)) (least : Nat) : Prop where
  /-- Every read stays inside the buffer. -/
  inside : ∀ buf, decode buf ≠ panic
  fails : ∀ buf error, decode buf = err error → Corrupt error
  consumed : ∀ buf value consumed, decode buf = ok (.complete value consumed) →
    least ≤ consumed ∧ consumed ≤ buf.length
  extended : ∀ buf rest value consumed, decode buf = ok (.complete value consumed) →
    decode (buf ++ rest) = ok (.complete value consumed)
  alone : ∀ buf value consumed, decode buf = ok (.complete value consumed) →
    decode (buf.take consumed) = ok (.complete value consumed)
  corrupt : ∀ buf rest position detail, decode buf = err (.corruptRecord position detail) →
    decode (buf ++ rest) = err (.corruptRecord position detail)
  incomplete : ∀ buf cut, decode buf = ok .incomplete → cut <+: buf → decode cut = ok .incomplete

/-- A decoder that waits for `head` bytes, then for as many as they announce, then reads those. -/
def framed {α : Type} (head : Nat) (total : List UInt8 → Nat) (read : List UInt8 → Outcome Error α)
    (buf : List UInt8) : Outcome Error (DecodeOutcome α) :=
  if buf.length < head then ok .incomplete
  else if buf.length < total (buf.take head) then ok .incomplete
  else read (buf.take (total (buf.take head))) >>= fun value => ok (.complete value (total (buf.take head)))

section Framed
variable {α : Type} {head : Nat} {total : List UInt8 → Nat} {read : List UInt8 → Outcome Error α}

theorem framed_present (buf : List UInt8) (headIn : head ≤ buf.length)
    (wholeIn : total (buf.take head) ≤ buf.length) :
    framed head total read buf = read (buf.take (total (buf.take head))) >>=
      fun value => ok (.complete value (total (buf.take head))) := by
  rw [framed, if_neg (by omega), if_neg (by omega)]

theorem framed_waiting (buf : List UInt8) (missing : buf.length < head ∨ buf.length < total (buf.take head)) :
    framed head total read buf = ok .incomplete := by
  rw [framed]
  rcases missing with noHead | noWhole
  · rw [if_pos noHead]
  · rw [if_pos noWhole, ite_self]

theorem present_of_settled {buf : List UInt8} (settled : framed head total read buf ≠ ok .incomplete) :
    head ≤ buf.length ∧ total (buf.take head) ≤ buf.length := by
  constructor
  · by_contra noHead
    exact settled (framed_waiting buf (Or.inl (by omega)))
  · by_contra noWhole
    exact settled (framed_waiting buf (Or.inr (by omega)))

theorem framed_append (buf rest : List UInt8) (settled : framed head total read buf ≠ ok .incomplete) :
    framed head total read (buf ++ rest) = framed head total read buf := by
  obtain ⟨headIn, wholeIn⟩ := present_of_settled settled
  have sameHead : (buf ++ rest).take head = buf.take head := List.take_append_of_le_length headIn
  have length : (buf ++ rest).length = buf.length + rest.length := List.length_append
  rw [framed_present (buf ++ rest) (by omega) (by rw [sameHead]; omega), framed_present buf headIn wholeIn,
    sameHead, List.take_append_of_le_length wholeIn]

theorem framed_ends (least : Nat) (reads : ∀ announced frame, frame.length = total announced →
      Ends (read frame) (fun _ => least ≤ frame.length) Corrupt) (buf : List UInt8) :
    Ends (framed head total read buf) (fun outcome => ∀ value consumed, outcome = .complete value consumed →
      consumed = total (buf.take head) ∧ least ≤ consumed ∧ consumed ≤ buf.length) Corrupt := by
  by_cases waiting : buf.length < head ∨ buf.length < total (buf.take head)
  · rw [framed_waiting buf waiting]
    intro value consumed same
    cases same
  · have size : (buf.take (total (buf.take head))).length = total (buf.take head) := by
      rw [List.length_take]
      omega
    rw [framed_present buf (by omega) (by omega)]
    apply (reads (buf.take head) _ size).bind
    intro read enough value consumed same
    cases same
    omega

theorem framed_take (buf : List UInt8) (headInWhole : head ≤ total (buf.take head))
    (wholeIn : total (buf.take head) ≤ buf.length) :
    framed head total read (buf.take (total (buf.take head))) = framed head total read buf := by
  have size : (buf.take (total (buf.take head))).length = total (buf.take head) := by
    rw [List.length_take]
    omega
  have sameHead : (buf.take (total (buf.take head))).take head = buf.take head := by
    rw [List.take_take, Nat.min_eq_left headInWhole]
  rw [framed_present _ (by omega) (by rw [sameHead]; omega), framed_present buf (by omega) wholeIn, sameHead,
    List.take_take, Nat.min_self]

/-- It is enough that the announced size includes the head and that reading the whole ends well. -/
theorem framed_stable (least : Nat) (headInWhole : ∀ announced, head ≤ total announced)
    (reads : ∀ announced frame, frame.length = total announced →
      Ends (read frame) (fun _ => least ≤ frame.length) Corrupt) :
    Stable (framed head total read) least := by
  have ends : ∀ buf, Ends (framed head total read buf) _ Corrupt := framed_ends least reads
  constructor
  case inside =>
    intro buf panics
    have bad := ends buf
    rw [panics] at bad
    exact bad
  case fails =>
    intro buf error failed
    have bad := ends buf
    rwa [failed] at bad
  case consumed =>
    intro buf value consumed decoded
    have good := ends buf
    rw [decoded] at good
    exact (good value consumed rfl).2
  case extended =>
    intro buf rest value consumed decoded
    rw [framed_append buf rest (by simp [decoded]), decoded]
  case alone =>
    intro buf value consumed decoded
    have good := ends buf
    rw [decoded] at good
    obtain ⟨same, -, inside⟩ := good value consumed rfl
    rw [same] at inside ⊢
    rw [framed_take buf (headInWhole _) inside, decoded, same]
  case corrupt =>
    intro buf rest position detail failed
    rw [framed_append buf rest (by simp [failed]), failed]
  case incomplete =>
    -- A shorter input with an answer would give the longer one the same answer.
    rintro buf cut waiting ⟨rest, rfl⟩
    by_contra settled
    rw [framed_append cut rest settled] at waiting
    exact settled waiting

end Framed

/-! ### The three decoders -/

theorem decodeRecord_framed (crc : Crc32fast) :
    decodeRecord crc = framed 4 (fun head => 4 + (u32OfBytes head).toNat)
      (fun record => decodeFrame crc (record.drop 4)) := by
  funext buf
  by_cases short : buf.length < 4
  · rw [decodeRecord_of_short crc buf short, framed_waiting buf (Or.inl short)]
  · rw [decodeRecord_of_long crc buf (by omega), framed, if_neg short]
    rfl

def headerOf (frame : List UInt8) : Outcome Error BatchHeader :=
  if frame.take 4 ≠ batchHeaderMagic then corrupt "wrong batch header magic bytes"
  else ok ⟨u32OfBytes ((frame.take 8).drop 4), u64OfBytes ((frame.take 16).drop 8)⟩

theorem headerOf_ends (frame : List UInt8) (size : frame.length = 16) :
    Ends (headerOf frame) (fun _ => 16 ≤ frame.length) Corrupt := by
  unfold headerOf
  split_ifs
  · trivial
  · exact size.ge

theorem decodeBatchHeader_framed : decodeBatchHeader = framed 16 (fun _ => 16) headerOf := by
  funext buf
  by_cases short : buf.length < 16
  · rw [decodeBatchHeader_short buf short, framed_waiting buf (Or.inl short)]
  have four : (buf.take 16).take 4 = buf.take 4 := by rw [List.take_take]; rfl
  have eight : (buf.take 16).take 8 = buf.take 8 := by rw [List.take_take]; rfl
  rw [framed_present buf (by omega) (by omega), headerOf, four, eight, List.take_take]
  by_cases right : buf.take 4 = batchHeaderMagic
  · rw [decodeBatchHeader_magic buf (by omega) right, if_neg (by simpa using right)]
    rfl
  · rw [decodeBatchHeader_wrongMagic buf (by omega) right, if_pos right]
    rfl

def footerOf (frame : List UInt8) : Outcome Error BatchFooter :=
  if frame.take 4 ≠ batchFooterMagic then corrupt "wrong batch footer magic bytes"
  else ok ⟨u32OfBytes ((frame.take 8).drop 4)⟩

theorem footerOf_ends (frame : List UInt8) (size : frame.length = 8) :
    Ends (footerOf frame) (fun _ => 8 ≤ frame.length) Corrupt := by
  unfold footerOf
  split_ifs
  · trivial
  · exact size.ge

theorem decodeBatchFooter_framed : decodeBatchFooter = framed 8 (fun _ => 8) footerOf := by
  funext buf
  by_cases short : buf.length < 8
  · rw [decodeBatchFooter_short buf short, framed_waiting buf (Or.inl short)]
  have four : (buf.take 8).take 4 = buf.take 4 := by rw [List.take_take]; rfl
  have eight : (buf.take 8).take 8 = buf.take 8 := by rw [List.take_take]; rfl
  rw [framed_present buf (by omega) (by omega), footerOf, four, eight]
  by_cases right : buf.take 4 = batchFooterMagic
  · rw [decodeBatchFooter_magic buf (by omega) right, if_neg (by simpa using right)]
    rfl
  · rw [decodeBatchFooter_wrongMagic buf (by omega) right, if_pos right]
    rfl

theorem decodeFrame_least (crc : Crc32fast) (record : List UInt8) :
    Ends (decodeFrame crc (record.drop 4)) (fun _ => 74 ≤ record.length) Corrupt := by
  have ends := decodeFrame_ends crc (record.drop 4)
  generalize result : decodeFrame crc (record.drop 4) = outcome at ends
  cases outcome with
  | ok event =>
    obtain ⟨body, frame, parsed⟩ := decodeFrame_eq_ok.mp result
    obtain ⟨-, slack, rfl⟩ := decodeBody_eq_ok parsed
    have lengths := congrArg List.length frame
    have fixed := length_encodeBody event
    simp only [List.length_drop, List.length_append, length_u32ToBytes, fixedBodySize] at lengths fixed
    change 74 ≤ record.length
    omega
  | err error => exact ends
  | panic => exact ends

theorem decoders_stable (crc : Crc32fast) :
    Stable (decodeRecord crc) 74 ∧ Stable decodeBatchHeader 16 ∧ Stable decodeBatchFooter 8 := by
  refine ⟨?_, ?_, ?_⟩
  · rw [decodeRecord_framed]
    exact framed_stable 74 (fun announced => Nat.le_add_right 4 _) (fun _ record _ => decodeFrame_least crc record)
  · rw [decodeBatchHeader_framed]
    exact framed_stable 16 (fun _ => Nat.le_refl 16) (fun _ => headerOf_ends)
  · rw [decodeBatchFooter_framed]
    exact framed_stable 8 (fun _ => Nat.le_refl 8) (fun _ => footerOf_ends)

end EventfoldDb.DecoderStability
