import EndpointClient.Entity

/-!
# EndpointClient.Proofs.Delivery

How far the writing of an entity is, told by the bytes that its sink has taken.

* `Delivery.UpTo cs faults sent d`: the writing `d` of the chunks `cs` stands after the bytes
  `sent`. If it has failed, then by the first failure of the chunks, or by one of `faults`, which
  are those of the sink.
* `upTo_start`, `upTo_took`: it holds at the beginning, and each part that a sink takes moves the
  writing on by that part.
* `left_took`: the bytes that a sink takes come off what is left to do.
-/

namespace EndpointClient
namespace Delivery

open Http (Chunks)

variable {cs rest : Chunks} {faults : IoError → Prop} {sent part : Bytes}

/-- The writing of chunks stands after the bytes `sent`. -/
def UpTo (cs : Chunks) (faults : IoError → Prop) (sent : Bytes) : Delivery → Prop
  | .writing part rest =>
    part ≠ [] ∧ sent ++ (part ++ Chunks.bytes rest) = cs.bytes ∧
      Chunks.failure? rest = cs.failure?
  | .failed e => sent <+: cs.bytes ∧ (cs.failure? = some e ∧ sent = cs.bytes ∨ faults e)
  | _ => sent = cs.bytes ∧ cs.failure? = none

/-- Chunks that make up the rest of others are where the writing of those goes on. -/
theorem upTo_ofChunks (hb : sent ++ rest.bytes = cs.bytes) (hf : rest.failure? = cs.failure?) :
    (ofChunks rest).UpTo cs faults sent := by
  fun_induction ofChunks rest with
  | case1 =>
    simp only [Chunks.bytes, List.append_nil, Chunks.failure?] at hb hf
    exact ⟨hb, hf.symm⟩
  | case2 rest ih => exact ih hb hf
  | case3 bs rest hne => exact ⟨fun h => hne h, hb, hf⟩
  | case4 e rest =>
    simp only [Chunks.bytes, List.append_nil, Chunks.failure?] at hb hf
    exact ⟨hb ▸ List.prefix_refl _, .inl ⟨hf.symm, hb⟩⟩

theorem ofChunks_ne_finished (cs : Chunks) : ofChunks cs ≠ .finished := by
  fun_induction ofChunks cs with
  | case1 => intro h; cases h
  | case2 rest ih => exact ih
  | case3 bs rest => intro h; cases h
  | case4 => intro h; cases h

theorem took_ne_finished (part : Bytes) (rest : Chunks) (n : Nat) :
    (writing part rest).reply (.took n) ≠ .finished := by
  simp only [reply]
  split
  · intro h
    cases h
  · split
    · exact ofChunks_ne_finished rest
    · intro h
      cases h

theorem upTo_start (e : Entity) : (start e).UpTo e.chunks faults [] := upTo_ofChunks rfl rfl

theorem upTo_took {n : Nat} (h : (writing part rest).UpTo cs faults sent) (hn : 0 < n) :
    ((writing part rest).reply (.took n)).UpTo cs faults (sent ++ part.take n) := by
  obtain ⟨_, hb, hf⟩ := h
  have hsplit : part.take n ++ part.drop n = part := List.take_append_drop n part
  simp only [reply, Nat.ne_of_gt hn, if_false]
  split
  · rename_i hd
    rw [hd, List.append_nil] at hsplit
    refine upTo_ofChunks ?_ hf
    rw [hsplit, List.append_assoc]
    exact hb
  · rename_i hd
    refine ⟨hd, ?_, hf⟩
    rw [List.append_assoc, ← List.append_assoc (part.take n), hsplit]
    exact hb

theorem UpTo.isPrefix {d : Delivery} (h : d.UpTo cs faults sent) : sent <+: cs.bytes := by
  cases d with
  | writing part rest => exact ⟨_, h.2.1⟩
  | flushing => exact h.1 ▸ List.prefix_refl _
  | closing => exact h.1 ▸ List.prefix_refl _
  | finished => exact h.1 ▸ List.prefix_refl _
  | failed e => exact h.1

theorem UpTo.fault {d : Delivery} {e : IoError} (h : d.UpTo cs faults sent) (he : faults e) :
    (failed e).UpTo cs faults sent := ⟨h.isPrefix, .inr he⟩

/-- More faults of the sink explain all that fewer explain. -/
theorem UpTo.mono {d : Delivery} {faults' : IoError → Prop} (h : d.UpTo cs faults sent)
    (hf : ∀ e, faults e → faults' e) : d.UpTo cs faults' sent := by
  cases d with
  | failed e => exact ⟨h.1, h.2.imp_right (hf e)⟩
  | writing part rest => exact h
  | flushing => exact h
  | closing => exact h
  | finished => exact h

/-- The bytes that a sink takes come off what is left to do. -/
theorem left_took {n : Nat} (hn : 0 < n) (hle : n ≤ part.length) :
    ((writing part rest).reply (.took n)).left + n ≤ (writing part rest).left := by
  have hrest := left_ofChunks_le rest
  rw [left_writing]
  simp only [reply, Nat.ne_of_gt hn, if_false]
  split
  · omega
  · rw [left_writing, List.length_drop]
    omega

end Delivery
end EndpointClient
