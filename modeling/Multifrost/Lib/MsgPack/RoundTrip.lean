import Mathlib.Algebra.Order.Ring.Int
import Mathlib.Tactic.Zify
import Multifrost.Lib.MsgPack.Tree

/-!
# What is written is read back

The format has room for integers of 64 bits, signed or unsigned, and for strings, binary data and
containers of less than `2^32` bytes or elements (`Value.encodable`).  What `encode` writes of such a
value, `decode` reads back from the front of any byte string (`decode_encode`), so `fromSlice` is the
inverse of `encode` on them (`fromSlice_encode`).

Every value takes at least a byte, and reading it takes at most two steps for each of its bytes: one
for the value itself and one for its place in the container it is in.
-/

namespace MsgPack

/-! ### Numbers and strings of bytes -/

theorem takeBytes_append (bs rest : Bytes) : takeBytes bs.length (bs ++ rest) = some (bs, rest) := by
  have hlen : ¬ (bs ++ rest).length < bs.length := by
    rw [List.length_append]
    omega
  rw [takeBytes, if_neg hlen, List.take_left, List.drop_left]

theorem takeNat_toBE {k n : Nat} (h : n < 256 ^ k) (rest : Bytes) :
    takeNat k (Bytes.toBE k n ++ rest) = some (n, rest) := by
  have htake := takeBytes_append (Bytes.toBE k n) rest
  rw [Bytes.length_toBE] at htake
  rw [takeNat, htake, Option.map_some, Bytes.ofBE_toBE, Nat.mod_eq_of_lt h]

/-- Two's complement: a negative number is written `2 ^ (8 k)` above itself. -/
theorem takeInt_toBE {k : Nat} {i : Int} (hk : 0 < k) (hlow : -2 ^ (8 * k - 1) ≤ i) (hneg : i < 0)
    (rest : Bytes) :
    takeInt k (Bytes.toBE k (i + 2 ^ (8 * k)).toNat ++ rest) = some (.int i, rest) := by
  have hpow : (2 : Int) ^ (8 * k) = 2 * 2 ^ (8 * k - 1) := by
    rw [← pow_succ']
    congr 1
    omega
  have hpos : (0 : Int) < 2 ^ (8 * k - 1) := pow_pos (by decide) _
  have hcast : ((i + 2 ^ (8 * k)).toNat : Int) = i + 2 ^ (8 * k) := Int.toNat_of_nonneg (by omega)
  have hbytes : (256 : Nat) ^ k = 2 ^ (8 * k) := by
    rw [pow_mul]
    rfl
  have hfits : (i + 2 ^ (8 * k)).toNat < 256 ^ k := by
    zify
    rw [hcast, show (256 : Int) ^ k = 2 ^ (8 * k) by exact_mod_cast hbytes]
    omega
  have hsign : ¬ (i + 2 ^ (8 * k)).toNat < 2 ^ (8 * k - 1) := by
    zify
    rw [hcast]
    omega
  rw [takeInt, takeNat_toBE hfits, Option.map_some, if_neg hsign, hcast, add_sub_cancel_right]

theorem toList_loop (bs : ByteArray) (i : Nat) (read : List UInt8) :
    ByteArray.toList.loop bs i read = read.reverse ++ bs.data.toList.drop i := by
  fun_induction ByteArray.toList.loop bs i read with
  | case1 i read h ih =>
    have hlen : i < bs.data.toList.length := h
    have hbyte : bs.get! i = bs.data.toList[i] := getElem!_pos bs.data i h
    rw [ih, List.reverse_cons, List.append_assoc, List.drop_eq_getElem_cons hlen, hbyte]
    rfl
  | case2 i read h =>
    have hlen : bs.data.toList.length ≤ i := Nat.le_of_not_lt h
    rw [List.drop_of_length_le hlen, List.append_nil]

theorem toList_eq (bs : ByteArray) : bs.toList = bs.data.toList := toList_loop bs 0 []

theorem length_toUTF8 (s : String) : s.toUTF8.toList.length = s.utf8ByteSize := by
  rw [toList_eq]
  rfl

/-- The bytes of a string are the bytes of a string. -/
theorem fromUTF8_toUTF8 (s : String) : String.fromUTF8? ⟨s.toUTF8.toList.toArray⟩ = some s := by
  have hbytes : (⟨s.toUTF8.toList.toArray⟩ : ByteArray) = s.toUTF8 := by
    rw [toList_eq]
  rw [hbytes, String.fromUTF8?, String.toUTF8_eq_toByteArray, dif_pos s.isValidUTF8]
  rfl

theorem takeStr_append (s : String) (rest : Bytes) :
    takeStr s.toUTF8.toList.length (s.toUTF8.toList ++ rest) = some (.str s, rest) := by
  rw [takeStr, takeBytes_append]
  show ((String.fromUTF8? ⟨s.toUTF8.toList.toArray⟩).bind fun s => some (Value.str s, rest)) = _
  rw [fromUTF8_toUTF8]
  rfl

theorem takeBin_append (bs rest : Bytes) :
    takeBin bs.length (bs ++ rest) = some (.bin bs, rest) := by
  rw [takeBin, takeBytes_append]
  rfl

theorem takeExt_append (type : UInt8) (data rest : Bytes) :
    takeExt data.length (type :: data ++ rest) = some (.ext type data, rest) := by
  rw [List.cons_append, takeExt, takeBytes_append]
  rfl

/-! ### One value -/

section Forms

variable (fuel : Nat) (rest : Bytes)

/-- The byte of a fixed form. -/
theorem toNat_fixed {n : Nat} (h : n < 0x100) : (UInt8.ofNat n).toNat = n :=
  UInt8.toNat_ofNat_of_lt' h

theorem decode_encodeInt {i : Int} (hlow : -2 ^ 63 ≤ i) (hhigh : i < 2 ^ 64) :
    decode (fuel + 1) (encodeInt i ++ rest) = some (.int i, rest) := by
  unfold encodeInt
  by_cases hsign : 0 ≤ i
  · have hcast : (i.toNat : Int) = i := Int.toNat_of_nonneg hsign
    -- the unsigned forms, from the shortest on
    have hnat : ∀ k, i.toNat < 256 ^ k →
        (takeNat k (Bytes.toBE k i.toNat ++ rest)).map (fun r => (Value.int r.1, r.2)) =
          some (.int i, rest) := by
      intro k hk
      rw [takeNat_toBE hk, Option.map_some, hcast]
    rw [if_pos hsign]
    split_ifs with h1 h2 h3 h4
    · have ht : (UInt8.ofNat i.toNat).toNat = i.toNat := toNat_fixed (by omega)
      show decode (fuel + 1) (UInt8.ofNat i.toNat :: rest) = _
      rw [decode, ht, if_pos (by omega), hcast]
    · exact hnat 1 (by omega)
    · exact hnat 2 (by omega)
    · exact hnat 4 (by omega)
    · exact hnat 8 (by omega)
  · have hneg : i < 0 := Int.lt_of_not_ge hsign
    rw [if_neg hsign]
    split_ifs with h1 h2 h3 h4
    · have hcast : ((i + 0x100).toNat : Int) = i + 0x100 := Int.toNat_of_nonneg (by omega)
      have ht : (UInt8.ofNat (i + 0x100).toNat).toNat = (i + 0x100).toNat :=
        toNat_fixed (by omega)
      show decode (fuel + 1) (UInt8.ofNat (i + 0x100).toNat :: rest) = _
      rw [decode, ht, if_neg (by omega), if_neg (by omega), if_neg (by omega), if_neg (by omega),
        if_pos (by omega), hcast, add_sub_cancel_right]
    · exact takeInt_toBE (k := 1) (by decide) h2 hneg rest
    · exact takeInt_toBE (k := 2) (by decide) h3 hneg rest
    · exact takeInt_toBE (k := 4) (by decide) h4 hneg rest
    · exact takeInt_toBE (k := 8) (by decide) hlow hneg rest

theorem decode_encodeFloat (x : Float64) :
    decode (fuel + 1) (0xcb :: x.toBE ++ rest) = some (.float x, rest) := by
  have htake := takeBytes_append x.toBE rest
  have hlen : x.toBE.length = 8 := Bytes.length_toBE 8 _
  have hbits : BitVec.ofNat 64 (Bytes.ofBE x.toBE) = x.bits := by
    have hlt : x.bits.toNat < 256 ^ 8 := x.bits.isLt
    rw [Float64.toBE, Bytes.ofBE_toBE, Nat.mod_eq_of_lt hlt, BitVec.ofNat_toNat,
      BitVec.setWidth_eq]
  rw [hlen] at htake
  show (takeBytes 8 (x.toBE ++ rest)).map (fun r => (Value.float (Float64.ofBE r.1), r.2)) = _
  rw [htake, Option.map_some, Float64.ofBE, hbits]

theorem decode_encodeStr {s : String} (h : s.utf8ByteSize < 2 ^ 32) :
    decode (fuel + 1) (encodeStr s ++ rest) = some (.str s, rest) := by
  have htake := takeStr_append s rest
  rw [← length_toUTF8] at h
  unfold encodeStr
  dsimp only
  generalize s.toUTF8.toList = bs at h htake ⊢
  have hnat : ∀ k, bs.length < 256 ^ k →
      ((takeNat k (Bytes.toBE k bs.length ++ (bs ++ rest))).bind fun r => takeStr r.1 r.2) =
        some (.str s, rest) := by
    intro k hk
    rw [takeNat_toBE hk, Option.bind_some, htake]
  rw [List.append_assoc]
  split_ifs with h1 h2 h3
  · have ht : (UInt8.ofNat (0xa0 + bs.length)).toNat = 0xa0 + bs.length :=
      toNat_fixed (by omega)
    show decode (fuel + 1) (UInt8.ofNat (0xa0 + bs.length) :: (bs ++ rest)) = _
    rw [decode, ht, if_neg (by omega), if_neg (by omega), if_neg (by omega), if_pos (by omega),
      Nat.add_sub_cancel_left, htake]
  · exact hnat 1 (by omega)
  · exact hnat 2 (by omega)
  · exact hnat 4 (by omega)

theorem decode_encodeBin {bs : Bytes} (h : bs.length < 2 ^ 32) :
    decode (fuel + 1) (encodeBin bs ++ rest) = some (.bin bs, rest) := by
  have hnat : ∀ k, bs.length < 256 ^ k →
      ((takeNat k (Bytes.toBE k bs.length ++ (bs ++ rest))).bind fun r => takeBin r.1 r.2) =
        some (.bin bs, rest) := by
    intro k hk
    rw [takeNat_toBE hk, Option.bind_some, takeBin_append]
  unfold encodeBin
  dsimp only
  rw [List.append_assoc]
  split_ifs with h1 h2
  · exact hnat 1 (by omega)
  · exact hnat 2 (by omega)
  · exact hnat 4 (by omega)

theorem decode_encodeExt (type : UInt8) {data : Bytes} (h : data.length < 2 ^ 32) :
    decode (fuel + 1) (encodeExt type data ++ rest) = some (.ext type data, rest) := by
  have htake := takeExt_append type data rest
  have hnat : ∀ k, data.length < 256 ^ k →
      ((takeNat k (Bytes.toBE k data.length ++ (type :: data ++ rest))).bind fun r =>
        takeExt r.1 r.2) = some (.ext type data, rest) := by
    intro k hk
    rw [takeNat_toBE hk, Option.bind_some, htake]
  unfold encodeExt
  dsimp only
  rw [List.append_assoc]
  split_ifs with h1 h2 h4 h8 h16 h17 h18
  -- the fixed forms
  · rw [h1] at htake
    exact htake
  · rw [h2] at htake
    exact htake
  · rw [h4] at htake
    exact htake
  · rw [h8] at htake
    exact htake
  · rw [h16] at htake
    exact htake
  · exact hnat 1 (by omega)
  · exact hnat 2 (by omega)
  · exact hnat 4 (by omega)

theorem decode_encodeArrayHeader {n : Nat} (h : n < 2 ^ 32) :
    decode (fuel + 1) (encodeArrayHeader n ++ rest) = decodeArray fuel n rest := by
  have hnat : ∀ k, n < 256 ^ k →
      ((takeNat k (Bytes.toBE k n ++ rest)).bind fun r => decodeArray fuel r.1 r.2) =
        decodeArray fuel n rest := by
    intro k hk
    rw [takeNat_toBE hk, Option.bind_some]
  unfold encodeArrayHeader
  split_ifs with h1 h2
  · have ht : (UInt8.ofNat (0x90 + n)).toNat = 0x90 + n := toNat_fixed (by omega)
    show decode (fuel + 1) (UInt8.ofNat (0x90 + n) :: rest) = _
    rw [decode, ht, if_neg (by omega), if_neg (by omega), if_pos (by omega),
      Nat.add_sub_cancel_left]
  · exact hnat 2 (by omega)
  · exact hnat 4 (by omega)

theorem decode_encodeMapHeader {n : Nat} (h : n < 2 ^ 32) :
    decode (fuel + 1) (encodeMapHeader n ++ rest) = decodeMap fuel n rest := by
  have hnat : ∀ k, n < 256 ^ k →
      ((takeNat k (Bytes.toBE k n ++ rest)).bind fun r => decodeMap fuel r.1 r.2) =
        decodeMap fuel n rest := by
    intro k hk
    rw [takeNat_toBE hk, Option.bind_some]
  unfold encodeMapHeader
  split_ifs with h1 h2
  · have ht : (UInt8.ofNat (0x80 + n)).toNat = 0x80 + n := toNat_fixed (by omega)
    show decode (fuel + 1) (UInt8.ofNat (0x80 + n) :: rest) = _
    rw [decode, ht, if_neg (by omega), if_pos (by omega), Nat.add_sub_cancel_left]
  · exact hnat 2 (by omega)
  · exact hnat 4 (by omega)

end Forms

/-! ### Values with all that is in them -/

/-- There is a form for the node. -/
def encodableNode : Value → Bool
  | .int i => decide (-2 ^ 63 ≤ i ∧ i < 2 ^ 64)
  | .str s => decide (s.utf8ByteSize < 2 ^ 32)
  | .bin bs => decide (bs.length < 2 ^ 32)
  | .array vs => decide (vs.length < 2 ^ 32)
  | .map kvs => decide (kvs.length < 2 ^ 32)
  | .ext _ data => decide (data.length < 2 ^ 32)
  | _ => true

/-- There is a form for every node. -/
def Value.encodable (v : Value) : Bool := v.everywhere encodableNode

/-- Reading what is written of `v` takes at most two steps for a byte. -/
def Reads (v : Value) : Prop :=
  ∀ fuel rest, 2 * (encode v).length ≤ fuel → decode fuel (encode v ++ rest) = some (v, rest)

theorem length_header (tag : UInt8) (k n : Nat) : (header tag k n).length = k + 1 := by
  rw [header, List.length_cons, Bytes.length_toBE]

theorem length_encodeInt_pos (i : Int) : 0 < (encodeInt i).length := by
  unfold encodeInt
  split_ifs <;> simp [length_header]

theorem length_encodeStr_pos (s : String) : 0 < (encodeStr s).length := by
  unfold encodeStr
  dsimp only
  split_ifs <;> simp [length_header]

theorem length_encodeBin_pos (bs : Bytes) : 0 < (encodeBin bs).length := by
  unfold encodeBin
  dsimp only
  split_ifs <;> simp [length_header]

theorem length_encodeExt_pos (type : UInt8) (data : Bytes) : 0 < (encodeExt type data).length := by
  unfold encodeExt
  rw [List.length_append, List.length_cons]
  omega

theorem length_encodeArrayHeader_pos (n : Nat) : 0 < (encodeArrayHeader n).length := by
  unfold encodeArrayHeader
  split_ifs <;> simp [length_header]

theorem length_encodeMapHeader_pos (n : Nat) : 0 < (encodeMapHeader n).length := by
  unfold encodeMapHeader
  split_ifs <;> simp [length_header]

theorem length_encode_pos (v : Value) : 0 < (encode v).length := by
  cases v with
  | nil => exact Nat.one_pos
  | bool b => exact Nat.one_pos
  | int i => exact length_encodeInt_pos i
  | float x => exact Nat.succ_pos _
  | str s => exact length_encodeStr_pos s
  | bin bs => exact length_encodeBin_pos bs
  | array vs =>
    have := length_encodeArrayHeader_pos vs.length
    rw [encode, List.length_append]
    omega
  | map kvs =>
    have := length_encodeMapHeader_pos kvs.length
    rw [encode, List.length_append]
    omega
  | ext type data => exact length_encodeExt_pos type data

theorem decodeArray_encodeArray {vs : List Value} (hvs : ∀ v ∈ vs, Reads v) {fuel : Nat}
    (rest : Bytes) (hfuel : 2 * (encodeArray vs).length < fuel) :
    decodeArray fuel vs.length (encodeArray vs ++ rest) = some (.array vs, rest) := by
  induction vs generalizing fuel with
  | nil =>
    obtain ⟨fuel, rfl⟩ : ∃ f, fuel = f + 1 := ⟨fuel - 1, by omega⟩
    rfl
  | cons v vs ih =>
    obtain ⟨hv, hvs⟩ := List.forall_mem_cons.mp hvs
    have hpos := length_encode_pos v
    rw [encodeArray, List.length_append] at hfuel
    obtain ⟨fuel, rfl⟩ : ∃ f, fuel = f + 1 := ⟨fuel - 1, by omega⟩
    have hhead := hv fuel (encodeArray vs ++ rest) (by omega)
    have htail : decodeArray fuel vs.length (encodeArray vs ++ rest) = some (.array vs, rest) :=
      ih hvs (by omega)
    rw [encodeArray, List.append_assoc, List.length_cons, decodeArray, hhead]
    show ((decodeArray fuel vs.length (encodeArray vs ++ rest)).bind _) = _
    rw [htail]
    rfl

theorem decodeMap_encodeMap {kvs : List (Value × Value)}
    (hkvs : ∀ kv ∈ kvs, Reads kv.1 ∧ Reads kv.2) {fuel : Nat} (rest : Bytes)
    (hfuel : 2 * (encodeMap kvs).length < fuel) :
    decodeMap fuel kvs.length (encodeMap kvs ++ rest) = some (.map kvs, rest) := by
  induction kvs generalizing fuel with
  | nil =>
    obtain ⟨fuel, rfl⟩ : ∃ f, fuel = f + 1 := ⟨fuel - 1, by omega⟩
    rfl
  | cons kv kvs ih =>
    obtain ⟨k, v⟩ := kv
    obtain ⟨hkv, hkvs⟩ := List.forall_mem_cons.mp hkvs
    have hk : Reads k := hkv.1
    have hv : Reads v := hkv.2
    have hpos := length_encode_pos k
    rw [encodeMap, List.length_append, List.length_append] at hfuel
    obtain ⟨fuel, rfl⟩ : ∃ f, fuel = f + 1 := ⟨fuel - 1, by omega⟩
    have hkey := hk fuel (encode v ++ (encodeMap kvs ++ rest)) (by omega)
    have hvalue := hv fuel (encodeMap kvs ++ rest) (by omega)
    have htail : decodeMap fuel kvs.length (encodeMap kvs ++ rest) = some (.map kvs, rest) :=
      ih hkvs (by omega)
    rw [encodeMap, List.append_assoc, List.append_assoc, List.length_cons, decodeMap, hkey]
    show ((decode fuel (encode v ++ (encodeMap kvs ++ rest))).bind _) = _
    rw [hvalue]
    show ((decodeMap fuel kvs.length (encodeMap kvs ++ rest)).bind _) = _
    rw [htail]
    rfl

/-- The first step is there to take. -/
theorem reads_of_succ {v : Value} (h : ∀ fuel rest, 2 * (encode v).length ≤ fuel + 1 →
    decode (fuel + 1) (encode v ++ rest) = some (v, rest)) : Reads v := by
  intro fuel rest hfuel
  have hpos := length_encode_pos v
  obtain ⟨fuel, rfl⟩ : ∃ f, fuel = f + 1 := ⟨fuel - 1, by omega⟩
  exact h fuel rest hfuel

/-- **What is written is read back**, whatever follows it. -/
theorem decode_encode (v : Value) (h : v.encodable = true) : Reads v := by
  induction v using Value.treeInduction with
  | nil => exact reads_of_succ fun fuel rest _ => rfl
  | bool b =>
    refine reads_of_succ fun fuel rest _ => ?_
    cases b <;> rfl
  | int i =>
    obtain ⟨hlow, hhigh⟩ := of_decide_eq_true h
    exact reads_of_succ fun fuel rest _ => decode_encodeInt fuel rest hlow hhigh
  | float x => exact reads_of_succ fun fuel rest _ => decode_encodeFloat fuel rest x
  | str s =>
    exact reads_of_succ fun fuel rest _ => decode_encodeStr fuel rest (of_decide_eq_true h)
  | bin bs =>
    exact reads_of_succ fun fuel rest _ => decode_encodeBin fuel rest (of_decide_eq_true h)
  | array vs ih =>
    obtain ⟨hnode, helems⟩ := everywhere_array.mp h
    have hheader := length_encodeArrayHeader_pos vs.length
    refine reads_of_succ fun fuel rest hfuel => ?_
    rw [encode, List.length_append] at hfuel
    rw [encode, List.append_assoc, decode_encodeArrayHeader fuel _ (of_decide_eq_true hnode)]
    exact decodeArray_encodeArray (fun v hv => ih v hv (helems v hv)) rest (by omega)
  | map kvs ih =>
    obtain ⟨hnode, helems⟩ := everywhere_map.mp h
    have hheader := length_encodeMapHeader_pos kvs.length
    refine reads_of_succ fun fuel rest hfuel => ?_
    rw [encode, List.length_append] at hfuel
    rw [encode, List.append_assoc, decode_encodeMapHeader fuel _ (of_decide_eq_true hnode)]
    refine decodeMap_encodeMap (fun kv hkv => ?_) rest (by omega)
    exact ⟨(ih kv hkv).1 (helems kv hkv).1, (ih kv hkv).2 (helems kv hkv).2⟩
  | ext type data =>
    exact reads_of_succ fun fuel rest _ => decode_encodeExt fuel rest type (of_decide_eq_true h)

/-- **`fromSlice` is the inverse of `encode`**. -/
theorem fromSlice_encode {v : Value} (h : v.encodable = true) : fromSlice (encode v) = some v := by
  have hread := decode_encode v h (2 * (encode v).length) [] le_rfl
  rw [List.append_nil] at hread
  rw [fromSlice, hread]

end MsgPack
