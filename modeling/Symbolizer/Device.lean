import Symbolizer.Sink

/-!
# Devices

A device is offered bytes in one request after another, and may take fewer than it is offered. A
writer goes on with what is left: it makes an interrupted request again, and gives up at any other
fault, or when the device takes nothing.

`Device.answer` is one request, and `Device.write` makes as many as a text takes. A device with room
for `n` bytes takes the first `n` of a text (`writeBytes_of_size_le`, `writeBytes_of_room_lt`), so
that to a writer it is a sink with a limit (`sink_write`).
-/

namespace Symbolizer

/-- A device with room for some more bytes. -/
structure Device where
  taken : ByteArray := .empty
  room : Nat
  /-- What it answers once it is full. Without a fault it takes nothing and says so. -/
  refusal : Option Fault := none
  /-- A full device that said it was interrupted would be asked again without end. -/
  kind_refusal_ne : ∀ fault ∈ refusal, fault.kind ≠ .interrupted := by simp

namespace Device

/-- How many of some bytes the device takes in one request, or the fault it answers instead. -/
def answer (d : Device) (bytes : ByteArray) : Except Fault Nat :=
  if d.room = 0 then d.refusal.elim (.ok 0) .error else .ok (min bytes.size d.room)

/-- The device behind a request of which it took the first `n` bytes. -/
def put (d : Device) (bytes : ByteArray) (n : Nat) : Device :=
  { d with taken := d.taken ++ bytes.extract 0 n, room := d.room - n }

theorem answer_of_room_ne {d : Device} (h : d.room ≠ 0) (bytes : ByteArray) :
    d.answer bytes = .ok (min bytes.size d.room) :=
  if_neg h

theorem answer_of_room_eq {d : Device} (h : d.room = 0) (bytes : ByteArray) :
    d.answer bytes = d.refusal.elim (.ok 0) .error :=
  if_pos h

theorem kind_ne_of_answer {d : Device} {bytes : ByteArray} {fault : Fault}
    (h : d.answer bytes = .error fault) : fault.kind ≠ .interrupted := by
  by_cases hroom : d.room = 0
  · rw [answer_of_room_eq hroom] at h
    cases hrefusal : d.refusal with
    | none => rw [hrefusal] at h; cases h
    | some refusal =>
      rw [hrefusal] at h
      obtain rfl : refusal = fault := Except.error.inj h
      exact d.kind_refusal_ne refusal hrefusal
  · rw [answer_of_room_ne hroom] at h
    cases h

/-- Makes requests until the device has taken all bytes; the fault, if it did not. -/
def writeBytes (d : Device) (bytes : ByteArray) : Device × Option Fault :=
  if bytes.size = 0 then (d, none)
  else
    match h : d.answer bytes with
    | .error fault => if fault.kind = .interrupted then d.writeBytes bytes else (d, some fault)
    | .ok 0 => (d, some { kind := .incompleteWrite })
    | .ok (n + 1) => (d.put bytes (n + 1)).writeBytes (bytes.extract (n + 1) bytes.size)
termination_by bytes.size
decreasing_by
  -- The device never says that it was interrupted, so no request is made twice.
  · exact absurd ‹fault.kind = .interrupted› (kind_ne_of_answer h)
  · rw [ByteArray.size_extract]
    omega

/-- Makes the requests that a text takes; the fault, if not all of it was taken. -/
def write (d : Device) (text : String) : Device × Option Fault :=
  d.writeBytes text.toUTF8

instance : Receiver Device where
  write := write
  flush d := (d, none)
  taken := taken

/-- The fault of a write to a device that is full. -/
def fault (d : Device) : Fault := d.refusal.getD { kind := .incompleteWrite }

/-- The sink that a device is to a writer. -/
def sink (d : Device) : Sink where
  taken := d.taken
  limit := some (d.taken.size + d.room)
  refusal := d.fault

/-- A device with room takes what fits it in one request. -/
theorem writeBytes_of_room_ne {d : Device} {bytes : ByteArray} (hne : bytes.size ≠ 0)
    (hroom : d.room ≠ 0) :
    d.writeBytes bytes = (d.put bytes (min bytes.size d.room)).writeBytes
      (bytes.extract (min bytes.size d.room) bytes.size) := by
  have hanswer := answer_of_room_ne hroom bytes
  rw [writeBytes, if_neg hne]
  split
  · next h => rw [hanswer] at h; cases h
  · next h =>
    have := Except.ok.inj (hanswer.symm.trans h)
    omega
  · next h => rw [Except.ok.inj (hanswer.symm.trans h)]

/-- A device without room takes nothing, and is not asked again. -/
theorem writeBytes_of_room_eq {d : Device} {bytes : ByteArray} (hne : bytes.size ≠ 0)
    (hroom : d.room = 0) : d.writeBytes bytes = (d, some d.fault) := by
  have hanswer := answer_of_room_eq hroom bytes
  rw [writeBytes, if_neg hne]
  rw [fault]
  cases hrefusal : d.refusal with
  | none =>
    rw [hrefusal] at hanswer
    split
    · next h => cases hanswer.symm.trans h
    · rfl
    · next h => cases hanswer.symm.trans h
  | some refusal =>
    rw [hrefusal] at hanswer
    split
    · next h =>
      rw [if_neg (kind_ne_of_answer h), Except.error.inj (hanswer.symm.trans h)]
      rfl
    · next h => cases hanswer.symm.trans h
    · next h => cases hanswer.symm.trans h

theorem writeBytes_of_size_eq (d : Device) {bytes : ByteArray} (h : bytes.size = 0) :
    d.writeBytes bytes = (d, none) := by
  rw [writeBytes, if_pos h]

/-- What fits is taken. -/
theorem writeBytes_of_size_le {d : Device} {bytes : ByteArray} (h : bytes.size ≤ d.room) :
    d.writeBytes bytes = (d.put bytes bytes.size, none) := by
  by_cases hne : bytes.size = 0
  · rw [writeBytes_of_size_eq d hne, put, hne]
    simp
  · rw [writeBytes_of_room_ne hne (by omega), Nat.min_eq_left h, writeBytes_of_size_eq]
    simp

/-- Of what does not fit, the device takes the first bytes, until it is full. -/
theorem writeBytes_of_room_lt {d : Device} {bytes : ByteArray} (h : d.room < bytes.size) :
    d.writeBytes bytes = (d.put bytes d.room, some d.fault) := by
  by_cases hroom : d.room = 0
  · rw [writeBytes_of_room_eq (by omega) hroom, put, hroom]
    simp [← hroom]
  · rw [writeBytes_of_room_ne (by omega) hroom, Nat.min_eq_right (by omega), writeBytes_of_room_eq]
    · rfl
    · rw [ByteArray.size_extract]
      omega
    · simp [put]

theorem accepts_sink (d : Device) (n : Nat) : d.sink.accepts n = min n d.room := by
  simp [Sink.accepts, sink]

/-- What a device takes, its sink takes. -/
theorem sink_put {d : Device} {bytes : ByteArray} {n : Nat} (hn : n ≤ bytes.size)
    (hroom : n ≤ d.room) :
    (d.put bytes n).sink = { d.sink with taken := d.taken ++ bytes.extract 0 n } := by
  have hlimit : (d.taken ++ bytes.extract 0 n).size + (d.room - n) = d.taken.size + d.room := by
    rw [ByteArray.size_append, ByteArray.size_extract]
    omega
  simp only [sink, put, hlimit]
  rfl

/-- To a writer a device is a sink with a limit. -/
theorem sink_write (d : Device) (text : String) :
    d.sink.write text = ((d.write text).1.sink, (d.write text).2) := by
  have htaken := d.sink.taken_write text
  have hfst := d.sink.write_fst text
  have hsnd := d.sink.write_snd text
  rw [accepts_sink] at htaken hsnd
  rw [htaken] at hfst
  rw [write]
  refine Prod.ext ?_ ?_
  · rw [hfst]
    by_cases h : text.toUTF8.size ≤ d.room
    · rw [writeBytes_of_size_le h, sink_put (Nat.le_refl _) h, Nat.min_eq_left h]
      rfl
    · have hle := Nat.le_of_not_le h
      rw [writeBytes_of_room_lt (Nat.lt_of_not_le h), sink_put hle (Nat.le_refl _),
        Nat.min_eq_right hle]
      rfl
  · rw [hsnd]
    by_cases h : text.toUTF8.size ≤ d.room
    · rw [writeBytes_of_size_le h, if_neg (by omega)]
    · rw [writeBytes_of_room_lt (Nat.lt_of_not_le h), if_pos (by omega)]
      rfl

end Device

end Symbolizer
