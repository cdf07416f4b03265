/-! # Buffers

Bytes that are written from front to back. A field whose value is not known yet is written as zeros
and overwritten in its place later on. -/

namespace MqAssembler

/-- The bytes that have been written so far. -/
structure Buffer where
  data : Array UInt8

namespace Buffer

/-- A buffer before the first byte. -/
def empty : Buffer := ⟨#[]⟩

/-- The number of bytes. -/
def size (b : Buffer) : Nat := b.data.size

/-- The bytes in order. -/
def toList (b : Buffer) : List UInt8 := b.data.toList

/-- Writes bytes behind all others. -/
def append (b : Buffer) (bytes : List UInt8) : Buffer := ⟨b.data ++ bytes⟩

/-- Writes bytes over those that stand from a place on. -/
def overwrite (b : Buffer) (place : Nat) : List UInt8 → Buffer
  | [] => b
  | byte :: rest => overwrite ⟨b.data.setIfInBounds place byte⟩ (place + 1) rest

theorem ext_toList {b c : Buffer} (h : b.toList = c.toList) : b = c := by
  obtain ⟨data⟩ := b
  obtain ⟨other⟩ := c
  exact congrArg Buffer.mk (Array.toList_inj.1 h)

theorem size_eq_length (b : Buffer) : b.size = b.toList.length := rfl

@[simp] theorem toList_append (b : Buffer) (bytes : List UInt8) :
    (b.append bytes).toList = b.toList ++ bytes :=
  Array.toList_appendList

@[simp] theorem append_nil (b : Buffer) : b.append [] = b :=
  ext_toList (by rw [toList_append, List.append_nil])

theorem append_append (b : Buffer) (first second : List UInt8) :
    (b.append first).append second = b.append (first ++ second) :=
  ext_toList (by simp only [toList_append, List.append_assoc])

/-- A field that is overwritten keeps its place and its neighbours. -/
theorem toList_overwrite {b : Buffer} {front field back : List UInt8} {bytes : List UInt8}
    (h : b.toList = front ++ (field ++ back)) (hlength : field.length = bytes.length) :
    (b.overwrite front.length bytes).toList = front ++ (bytes ++ back) := by
  induction bytes generalizing b front field with
  | nil =>
      rw [List.eq_nil_of_length_eq_zero hlength] at h
      exact h
  | cons byte rest ih =>
      obtain ⟨old, field, rfl⟩ := List.exists_cons_of_length_eq_add_one hlength
      have hset : (Buffer.mk (b.data.setIfInBounds front.length byte)).toList =
          (front ++ [byte]) ++ (field ++ back) := by
        change (b.data.setIfInBounds front.length byte).toList = _
        rw [Array.toList_setIfInBounds]
        change b.toList.set front.length byte = _
        rw [h]
        simp
      have hplace : front.length + 1 = (front ++ [byte]).length := by simp
      rw [overwrite, hplace, ih hset (Nat.succ.inj hlength)]
      simp

end Buffer

end MqAssembler
