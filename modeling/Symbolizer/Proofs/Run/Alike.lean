import Symbolizer.Buffer
import Symbolizer.Proofs.Run.Stages

/-!
# Receivers that answer alike

A run sees of its receiver only what it answers. If two receivers are in a relation in which they
answer alike and which their answers keep, a run comes to the same with both
(`Receiver.Alike.annotateFiles_eq_of_rel`).

A sink without a limit can stand for whatever passes everything on to one sooner or later
(`Receiver.Delivers`). A buffer may be put in front of such a receiver, and another in front of that
one (`Buffered.delivers_ahead`).
-/

namespace Symbolizer

variable {σ τ : Type} [Receiver σ] [Receiver τ]

namespace Receiver

/-- A relation in which receivers answer alike, and in which they stay. -/
structure Alike (R : σ → τ → Prop) : Prop where
  write {s : σ} {q : τ} (h : R s q) (text : String) :
    (write s text).2 = (write q text).2 ∧ R (write s text).1 (write q text).1
  flush {s : σ} {q : τ} (h : R s q) :
    (flush s).2 = (flush q).2 ∧ R (flush s).1 (flush q).1

namespace Alike

variable {R : σ → τ → Prop} {s s' : σ} {q : τ}

theorem writeAll (h : Alike R) (hrel : R s q) (texts : List String) :
    (Receiver.writeAll s texts).2 = (Receiver.writeAll q texts).2 ∧
      R (Receiver.writeAll s texts).1 (Receiver.writeAll q texts).1 := by
  induction texts generalizing s q with
  | nil => exact ⟨rfl, hrel⟩
  | cons text texts ih =>
    obtain ⟨hfault, hrel'⟩ := h.write hrel text
    rw [Receiver.writeAll, Receiver.writeAll]
    rcases hs : Receiver.write s text with ⟨s₁, fault⟩
    rcases hq : Receiver.write q text with ⟨q₁, fault'⟩
    rw [hs, hq] at hfault hrel'
    obtain rfl : fault = fault' := hfault
    cases fault with
    | none => exact ih hrel'
    | some fault => exact ⟨rfl, hrel'⟩

/-- What some texts lead to with the one receiver, they lead to with the other. -/
theorem exists_writeAll_eq (h : Alike R) (hrel : R s q) {texts : List String}
    {fault : Option Fault} (hwrite : Receiver.writeAll s texts = (s', fault)) :
    ∃ q', Receiver.writeAll q texts = (q', fault) ∧ R s' q' := by
  obtain ⟨hfault, hrel'⟩ := h.writeAll hrel texts
  rw [hwrite] at hfault hrel'
  exact ⟨_, Prod.ext rfl hfault.symm, hrel'⟩

/-- A run over some lines goes as far with the one receiver as with the other. -/
theorem exists_course (h : Alike R) (hrel : R s q) {t : SymbolTable}
    {items : List (Except Failure String)} {lines : List String} {failure : Option Failure}
    (hcourse : Course t s items lines s' failure) :
    ∃ q', Course t q items lines q' failure ∧ R s' q' := by
  cases hcourse with
  | whole hitems hwrite =>
    obtain ⟨q', hwrite', hrel'⟩ := h.exists_writeAll_eq hrel hwrite
    exact ⟨q', .whole hitems hwrite', hrel'⟩
  | unread hitems hwrite =>
    obtain ⟨q', hwrite', hrel'⟩ := h.exists_writeAll_eq hrel hwrite
    exact ⟨q', .unread hitems hwrite', hrel'⟩
  | refused hitems hwrite hrefused =>
    obtain ⟨q₁, hwrite', hrel₁⟩ := h.exists_writeAll_eq hrel hwrite
    obtain ⟨q', hrefused', hrel'⟩ := h.exists_writeAll_eq hrel₁ hrefused
    exact ⟨q', .refused hitems hwrite' hrefused', hrel'⟩

variable {files : Files} {listing log : String} {result : Except Failure Tally}

/-- A run ends in the same way with the one receiver as with the other. -/
theorem exists_ends (h : Alike R) (hrel : R s q) (hends : Ends files listing log s result s') :
    ∃ q', Ends files listing log q result q' ∧ R s' q' := by
  cases hends with
  | listing hlisting => exact ⟨q, .listing hlisting, hrel⟩
  | logShut hlisting hopen => exact ⟨q, .logShut hlisting hopen, hrel⟩
  | log hlisting hopen hcourse =>
    obtain ⟨q', hcourse', hrel'⟩ := h.exists_course hrel hcourse
    exact ⟨q', .log hlisting hopen hcourse', hrel'⟩
  | flush hlisting hopen hcourse hflush =>
    obtain ⟨q₁, hcourse', hrel₁⟩ := h.exists_course hrel hcourse
    obtain ⟨hfault, hrel'⟩ := h.flush hrel₁
    rw [hflush] at hfault hrel'
    exact ⟨_, .flush hlisting hopen hcourse' (Prod.ext rfl hfault.symm), hrel'⟩
  | done hlisting hopen hcourse hflush =>
    obtain ⟨q₁, hcourse', hrel₁⟩ := h.exists_course hrel hcourse
    obtain ⟨hfault, hrel'⟩ := h.flush hrel₁
    rw [hflush] at hfault hrel'
    exact ⟨_, .done hlisting hopen hcourse' (Prod.ext rfl hfault.symm), hrel'⟩

/-- A run comes to the same with both receivers, and leaves them in the relation. -/
theorem annotateFiles_eq_of_rel (h : Alike R) (hrel : R s q) :
    (annotateFiles files listing log s).result = (annotateFiles files listing log q).result ∧
      R (annotateFiles files listing log s).receiver
        (annotateFiles files listing log q).receiver := by
  obtain ⟨q', hends, hrel'⟩ := h.exists_ends hrel (ends_iff.2 ⟨rfl, rfl⟩)
  obtain ⟨hresult, hreceiver⟩ := hends.outcome_eq
  exact ⟨hresult.symm, hreceiver ▸ hrel'⟩

end Alike

/-- A relation to sinks without a limit, to which everything comes in the end. -/
structure Delivers (R : σ → Sink → Prop) : Prop extends Alike R where
  limit_eq {s : σ} {q : Sink} (h : R s q) : q.limit = none
  taken_flush {s : σ} {q : Sink} (h : R s q) : taken (Receiver.flush s).1 = q.taken

end Receiver

open Receiver (Delivers)

/-- To a sink without a limit two writes are one. -/
theorem Sink.write_write {s : Sink} (h : s.limit = none) (a b : String) :
    (s.write a).1.write b = s.write (a ++ b) := by
  rw [write_append, write_of_limit_eq_none h]

theorem Sink.limit_write (s : Sink) (text : String) : (s.write text).1.limit = s.limit := by
  rw [s.write_fst]

/-- A sink without a limit stands for itself. -/
theorem Sink.delivers_self : Delivers fun s q : Sink => s = q ∧ q.limit = none where
  write := by
    rintro s _ ⟨rfl, hlimit⟩ text
    exact ⟨rfl, rfl, (s.limit_write text).trans hlimit⟩
  flush := by
    rintro s _ ⟨rfl, hlimit⟩
    exact ⟨rfl, rfl, hlimit⟩
  limit_eq h := h.2
  taken_flush := by
    rintro s _ ⟨rfl, -⟩
    rfl

namespace Buffered

/-- What stands for a receiver behind a buffer: what stands for the receiver, once it has taken what
the buffer holds. -/
def Ahead (R : σ → Sink → Prop) (b : Buffered σ) (q : Sink) : Prop :=
  ∃ q₀, R b.behind q₀ ∧ q = (q₀.write b.buffer.held).1

variable {R : σ → Sink → Prop} {b : Buffered σ} {q : Sink}

theorem Ahead.limit_eq (h : Delivers R) (hahead : Ahead R b q) : q.limit = none := by
  obtain ⟨q₀, hrel, rfl⟩ := hahead
  rw [Sink.limit_write, h.limit_eq hrel]

/-- What a buffer passes on and what it then holds are what it held and the text. -/
theorem Ahead.write (h : Delivers R) (hahead : Ahead R b q) (text : String) :
    (b.write text).2 = (q.write text).2 ∧ Ahead R (b.write text).1 (q.write text).1 := by
  have hlimit := hahead.limit_eq h
  obtain ⟨q₀, hrel, rfl⟩ := hahead
  have hlimit₀ := h.limit_eq hrel
  obtain ⟨hfault, hrel'⟩ := h.writeAll hrel (b.buffer.put text).1
  rw [Sink.writeAll_eq_write_join] at hfault hrel'
  constructor
  · rw [Sink.write_of_limit_eq_none hlimit]
    rw [Sink.write_of_limit_eq_none hlimit₀] at hfault
    exact hfault
  · refine ⟨_, hrel', ?_⟩
    show _ = ((q₀.write (String.join (b.buffer.put text).1)).1.write (b.buffer.put text).2.held).1
    rw [Sink.write_write hlimit₀, Sink.write_write hlimit₀, b.buffer.join_put]

/-- A flush passes on what is held, and then nothing is held. -/
theorem flush_of_ahead (h : Delivers R) (hahead : Ahead R b q) :
    ∃ behind, R behind q ∧
      b.flush = (⟨{ b.buffer with held := "" }, (Receiver.flush behind).1⟩,
        (Receiver.flush behind).2) := by
  obtain ⟨q₀, hrel, rfl⟩ := hahead
  obtain ⟨hfault, hrel'⟩ := h.write hrel b.buffer.held
  rw [show Receiver.write q₀ b.buffer.held = q₀.write b.buffer.held from rfl] at hfault hrel'
  rw [Sink.write_of_limit_eq_none (h.limit_eq hrel)] at hfault
  refine ⟨_, hrel', ?_⟩
  rcases hwrite : Receiver.write b.behind b.buffer.held with ⟨behind, fault⟩
  obtain rfl : fault = none := (congrArg Prod.snd hwrite).symm.trans hfault
  rw [flush, hwrite]

/-- A buffer in front of a receiver changes nothing in the end. -/
theorem delivers_ahead (h : Delivers R) : Delivers (Ahead R) where
  write := Ahead.write h
  limit_eq := Ahead.limit_eq h
  flush {b q} hahead := by
    obtain ⟨behind, hrel, hflush⟩ := flush_of_ahead h hahead
    obtain ⟨hfault, hrel'⟩ := h.flush hrel
    rw [show Receiver.flush b = b.flush from rfl, hflush]
    refine ⟨hfault, _, hrel', ?_⟩
    show _ = ((Receiver.flush q).1.write "").1
    rw [Sink.write_empty]
  taken_flush {b q} hahead := by
    obtain ⟨behind, hrel, hflush⟩ := flush_of_ahead h hahead
    rw [show Receiver.flush b = b.flush from rfl, hflush]
    exact h.taken_flush hrel

end Buffered

end Symbolizer
