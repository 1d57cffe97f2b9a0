import Symbolizer.Text.Tolerant

/-!
# Tolerant decoding, byte by byte

`chars` is the text of some bytes behind a sequence that is pending, read from the machine one step
at a time (`toList_decode`). Every sequence that can be pending is `Sound`: it takes no byte of
ASCII, and what it completes is no control character such as those that end lines. So a byte of
ASCII stands for itself wherever it stands, and the text before it and the text behind it do not
depend on each other (`chars_append_cons`).
-/

namespace Symbolizer.Text.Tolerant

/-- The text of the bytes behind a pending sequence, that of the sequence included. -/
def chars (pending : Option Pending) : List UInt8 → List Char
  | [] => if pending.isSome then [replacement] else []
  | b :: bytes => (step pending b).1 ++ chars (step pending b).2 bytes

theorem toList_finish_foldl_feed (bytes : List UInt8) (d : Decoder) :
    (bytes.foldl Decoder.feed d).finish.toList = d.text.toList ++ chars d.pending bytes := by
  induction bytes generalizing d with
  | nil =>
    rw [List.foldl_nil, Decoder.finish, chars]
    split <;> simp
  | cons b bytes ih =>
    rw [List.foldl_cons, ih, toList_text_feed, pending_feed, chars, List.append_assoc]

theorem toList_decode (bytes : List UInt8) : (decode bytes).toList = chars none bytes := by
  simpa [decode] using toList_finish_foldl_feed bytes {}

/-- A sequence that takes only bytes beyond ASCII, and completes no character below U+0010. -/
def Pending.Sound (p : Pending) : Prop :=
  0x80 ≤ p.low.toNat ∧ 0x10 ≤ 64 * p.bits + (p.low.toNat - 0x80)

/-- A byte between characters is a character itself, or ill-formed, or begins a sequence. -/
theorem start_cases (b : UInt8) :
    b < 0x80 ∧ start b = ([Char.ofNat b.toNat], none) ∨
      0x80 ≤ b ∧ (start b = ([replacement], none) ∨ ∃ p, start b = ([], some p) ∧ p.Sound) := by
  by_cases h : b < 0x80
  · exact .inl ⟨h, by simp [start, h]⟩
  refine .inr ⟨UInt8.not_lt.1 h, ?_⟩
  have hn : (0x80 : UInt8).toNat ≤ b.toNat := UInt8.not_lt.1 h
  fun_cases start b
  case case1 hb => exact absurd hb h
  case case2 | case10 => exact .inl rfl
  all_goals
    refine .inr ⟨_, rfl, ?_⟩
    simp only [Pending.Sound, UInt8.lt_iff_toNat_lt, ← UInt8.toNat_inj, UInt8.reduceToNat] at *
    omega

/-- A byte behind a sequence goes on with it, which no byte of ASCII does, or breaks it off. -/
theorem step_cases {p : Pending} (hp : p.Sound) (b : UInt8) :
    0x80 ≤ b ∧ ((∃ n, 0x10 ≤ n ∧ step (some p) b = ([Char.ofNat n], none)) ∨
        ∃ q, step (some p) b = ([], some q) ∧ q.Sound) ∨
      step (some p) b = (replacement :: (start b).1, (start b).2) := by
  obtain ⟨hlow, hbits⟩ := hp
  simp only [step]
  split
  · next h =>
    have hb : p.low.toNat ≤ b.toNat := UInt8.le_iff_toNat_le.1 h.1
    refine .inl ⟨UInt8.le_iff_toNat_le.2 (Nat.le_trans hlow hb), ?_⟩
    unfold Pending.continue
    split
    · exact .inl ⟨_, by omega, rfl⟩
    · exact .inr ⟨_, rfl, Nat.le_refl 0x80, by simp only; omega⟩
  · exact .inr rfl

theorem sound_step {pending : Option Pending} (h : ∀ p ∈ pending, p.Sound) (b : UInt8) :
    ∀ p ∈ (step pending b).2, p.Sound := by
  have hstart : ∀ p ∈ (start b).2, p.Sound := by
    rcases start_cases b with ⟨-, hs⟩ | ⟨-, hs | ⟨q, hs, hq⟩⟩ <;> simp_all
  cases pending with
  | none => exact hstart
  | some p =>
    rcases step_cases (h p rfl) b with ⟨-, ⟨n, -, hs⟩ | ⟨q, hs, hq⟩⟩ | hs
    · simp [hs]
    · simpa [hs] using hq
    · simpa [hs] using hstart

/-- A byte of ASCII stands for itself, and what stands around it is decoded by itself. -/
theorem chars_append_cons {b : UInt8} (hb : b < 0x80) {pending : Option Pending}
    (h : ∀ p ∈ pending, p.Sound) (xs ys : List UInt8) :
    chars pending (xs ++ b :: ys) =
      chars pending xs ++ Char.ofNat b.toNat :: chars none ys := by
  have hstart : start b = ([Char.ofNat b.toNat], none) := by simp [start, hb]
  induction xs generalizing pending with
  | nil =>
    cases pending with
    | none => simp [chars, step, hstart]
    | some p =>
      rcases step_cases (h p rfl) b with ⟨hge, -⟩ | hs
      · exact absurd hb (UInt8.not_lt.2 hge)
      · simp [chars, hs, hstart]
  | cons x xs ih =>
    rw [List.cons_append, chars, ih (sound_step h x), chars, List.append_assoc]

/-- What a byte completes is the byte, or lies beyond the control characters that end lines. -/
theorem mem_step {pending : Option Pending} (h : ∀ p ∈ pending, p.Sound) {b : UInt8} {c : Char}
    (hc : c ∈ (step pending b).1) :
    c = Char.ofNat b.toNat ∨ ∃ n, 0x10 ≤ n ∧ c = Char.ofNat n := by
  have hstart (hc : c ∈ (start b).1) :
      c = Char.ofNat b.toNat ∨ ∃ n, 0x10 ≤ n ∧ c = Char.ofNat n := by
    rcases start_cases b with ⟨-, hs⟩ | ⟨-, hs | ⟨q, hs, -⟩⟩
    · exact .inl (by simpa [hs] using hc)
    · rw [hs] at hc
      exact .inr ⟨0xFFFD, by decide, List.mem_singleton.1 hc⟩
    · simp [hs] at hc
  cases pending with
  | none => exact hstart hc
  | some p =>
    rcases step_cases (h p rfl) b with ⟨-, ⟨n, hn, hs⟩ | ⟨q, hs, -⟩⟩ | hs
    · exact .inr ⟨n, hn, by simpa [hs] using hc⟩
    · simp [hs] at hc
    · simp only [hs, List.mem_cons] at hc
      rcases hc with hc | hc
      · exact .inr ⟨0xFFFD, by decide, hc⟩
      · exact hstart hc

theorem mem_chars {pending : Option Pending} (h : ∀ p ∈ pending, p.Sound) {bytes : List UInt8}
    {c : Char} (hc : c ∈ chars pending bytes) :
    (∃ b ∈ bytes, c = Char.ofNat b.toNat) ∨ ∃ n, 0x10 ≤ n ∧ c = Char.ofNat n := by
  induction bytes generalizing pending with
  | nil =>
    refine .inr ⟨0xFFFD, by decide, ?_⟩
    rw [chars] at hc
    split at hc
    · exact List.mem_singleton.1 hc
    · simp at hc
  | cons b bytes ih =>
    rw [chars, List.mem_append] at hc
    rcases hc with hc | hc
    · exact (mem_step h hc).imp_left fun e => ⟨b, List.mem_cons_self, e⟩
    · exact (ih (sound_step h b) hc).imp_left fun ⟨x, hx, e⟩ => ⟨x, List.mem_cons_of_mem _ hx, e⟩

theorem chars_some_ne_nil {p : Pending} (hp : p.Sound) (bytes : List UInt8) :
    chars (some p) bytes ≠ [] := by
  induction bytes generalizing p with
  | nil => simp [chars]
  | cons b bytes ih =>
    rcases step_cases hp b with ⟨-, ⟨n, -, hs⟩ | ⟨q, hs, hq⟩⟩ | hs
    · simp [chars, hs]
    · simpa [chars, hs] using ih hq
    · simp [chars, hs]

/-- Bytes are never decoded to nothing. -/
theorem chars_none_ne_nil {bytes : List UInt8} (h : bytes ≠ []) : chars none bytes ≠ [] := by
  cases bytes with
  | nil => exact absurd rfl h
  | cons b bytes =>
    rcases start_cases b with ⟨-, hs⟩ | ⟨-, hs | ⟨q, hs, hq⟩⟩
    · simp [chars, step, hs]
    · simp [chars, step, hs]
    · simpa [chars, step, hs] using chars_some_ne_nil hq bytes

end Symbolizer.Text.Tolerant
