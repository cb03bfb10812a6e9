import Snowflake.Proofs.Lookup
import Snowflake.Proofs.Records

/-!
# Layouts and parts that are read back

A layout and the parts of an id are written as records, and the texts that are read as them are the
records of their values. So it does not matter in which order the fields stand, how the text is
spaced, what else it says, or whether it names the fields at all: all the forms of one value are
read alike, and no other text is read as that value.

**Theorem (`documents_read_exactly`).** A text is read as a layout if and only if it is a record of
the layout's widths, and as parts if and only if it is a record of the three parts, over the whole
range of a word. What is written is read back. A record of two 32-bit widths is read as their layout
if they fit the bits they share, and is refused with both of them if not; the sum is that of the
numbers, which does not wrap around.
-/

namespace Snowflake

open Json

namespace Json

variable {fields : List String} {first : Bool} {cs lead : List Char}

/-! ## Writing -/

theorem spelled_self (h : ∀ c ∈ cs, c ≠ '"' ∧ c ≠ '\\' ∧ 0x20 ≤ c.toNat) : Spelled cs cs := by
  induction cs with
  | nil => exact .nil
  | cons c cs ih =>
    obtain ⟨⟨hquote, hescape, hcontrol⟩, hcs⟩ := List.forall_mem_cons.1 h
    exact .plain hquote hescape hcontrol (ih hcs)

theorem toList_repr (n : Int) : n.repr.toList = integerText n := by
  cases n with
  | ofNat n => exact congrArg String.toList (if_neg (by simp)).symm
  | negSucc n => exact congrArg String.toList (if_pos (Int.negSucc_lt_zero n)).symm

/-- A member without blanks. -/
def memberText (m : String × Int) : List Char :=
  '"' :: m.1.toList ++ '"' :: ':' :: integerText m.2

theorem toList_writeRecord (ms : List (String × Int)) :
    (writeRecord ms).toList =
      '\x7b' :: ([','].intercalate (ms.map memberText) ++ ['\x7d']) := by
  have htext : (fun m : String × Int => '"' :: (m.1.toList ++ '"' :: ':' :: m.2.repr.toList)) =
      memberText := by
    funext m
    rw [toList_repr]
    rfl
  simp [writeRecord, String.toList_intercalate, Function.comp_def, htext]

theorem members_written (hlead : Lead first lead) (m : String × Int) (ms : List (String × Int))
    (hms : ∀ m' ∈ m :: ms, m'.1 ∈ fields ∧ Spelled m'.1.toList m'.1.toList) :
    Members fields first (lead ++ ([','].intercalate ((m :: ms).map memberText) ++ ['\x7d']))
      (m :: ms) := by
  induction ms generalizing first lead m with
  | nil =>
    obtain ⟨hname, hspelled⟩ := hms m List.mem_cons_self
    have hlast := Members.member hlead hspelled blank_nil blank_nil (.field (n := m.2) hname)
      (.close blank_nil)
    simpa [memberText] using hlast
  | cons m' ms ih =>
    obtain ⟨⟨hname, hspelled⟩, hms'⟩ := List.forall_mem_cons.1 hms
    have hnext := ih (.next blank_nil blank_nil) m' hms'
    have hmember :=
      Members.member hlead hspelled blank_nil blank_nil (.field (n := m.2) hname) hnext
    rw [List.map_cons, List.map_cons, List.intercalate_cons_cons, ← List.map_cons]
    simpa [memberText] using hmember

/-- The characters of the name stand for themselves. -/
def Unescaped (name : String) : Prop :=
  ∀ c ∈ name.toList, c ≠ '"' ∧ c ≠ '\\' ∧ 0x20 ≤ c.toNat

theorem record_writeRecord (m : String × Int) (ms : List (String × Int))
    (hnames : ∀ name ∈ (m :: ms).map Prod.fst, Unescaped name) :
    Record ((m :: ms).map Prod.fst) ((m :: ms).map Prod.snd)
      (writeRecord (m :: ms)).toList := by
  have hms : ∀ m' ∈ m :: ms, m'.1 ∈ (m :: ms).map Prod.fst ∧ Spelled m'.1.toList m'.1.toList :=
    fun m' hm' => have hname := List.mem_map_of_mem hm'
      ⟨hname, spelled_self (hnames _ hname)⟩
  have hfound : (m :: ms).Perm (((m :: ms).map Prod.fst).zip ((m :: ms).map Prod.snd)) := by
    rw [List.zip_map', List.map_id']
  have hrecord := Record.object blank_nil (members_written (.first blank_nil) m ms hms) hfound
    (by simp) blank_nil
  simpa [toList_writeRecord] using hrecord

end Json

/-! ## Layouts -/

namespace Layout

variable {text : String} {a b : UInt32} {l : Layout}

theorem inRange_of_acceptsWidth (n : Int) (h : acceptsWidth n) : Word.InRange n := by
  rw [Word.inRange_iff]
  simp [acceptsWidth, UInt32.size] at h
  omega

theorem acceptsWidth_natCast {n : Nat} : acceptsWidth n ↔ n < UInt32.size := by
  simp [acceptsWidth]

theorem ofJson_of_record (h : Record fieldNames [(a.toNat : Int), (b.toNat : Int)] text.toList) :
    ofJson text = if hfits : a.toNat + b.toNat ≤ 22 then .ok ⟨a.toNat, b.toNat, hfits⟩
      else .error (.layout (.tooManyBits a b)) := by
  have haccepts : ∀ n ∈ [(a.toNat : Int), (b.toNat : Int)], acceptsWidth n := by
    simp [acceptsWidth_natCast, UInt32.toNat_lt_size]
  obtain ⟨tail, hread, htail⟩ :=
    (readRecord_iff inRange_of_acceptsWidth (by decide)).2 ⟨h, haccepts⟩
  split_ifs with hfits
  · simp [ofJson, hread, htail, ofWidths_of_le hfits]
  · simp [ofJson, hread, ofWidths_of_gt (Nat.lt_of_not_le hfits)]

theorem exists_of_acceptsWidth {n : Int} (h : acceptsWidth n) : ∃ a : UInt32, n = a.toNat := by
  have hrange : 0 ≤ n ∧ n < (UInt32.size : Int) := by simpa [acceptsWidth] using h
  have hlt : n.toNat < UInt32.size := by omega
  refine ⟨UInt32.ofNat n.toNat, ?_⟩
  rw [UInt32.toNat_ofNat_of_lt' hlt]
  omega

theorem exists_record (h : ofJson text = .ok l) :
    ∃ a b : UInt32, Record fieldNames [(a.toNat : Int), (b.toNat : Int)] text.toList := by
  unfold ofJson at h
  split at h
  next => cases h
  next n s tail hread =>
    split at h
    next => cases h
    next =>
      split at h
      next => cases h
      next htail =>
        obtain ⟨hrecord, haccepts⟩ :=
          (readRecord_iff inRange_of_acceptsWidth (by decide)).1 ⟨tail, hread, htail⟩
        obtain ⟨a, rfl⟩ := exists_of_acceptsWidth (haccepts n (by simp))
        obtain ⟨b, rfl⟩ := exists_of_acceptsWidth (haccepts s (by simp))
        exact ⟨a, b, hrecord⟩
  next => cases h

theorem toNat_ofNat_width {n : Nat} (h : n ≤ 22) : (UInt32.ofNat n).toNat = n :=
  UInt32.toNat_ofNat_of_lt' (Nat.lt_of_le_of_lt h (by decide))

/-- A text is read as a layout exactly if it is a record of its widths. -/
theorem ofJson_eq_ok_iff :
    ofJson text = .ok l ↔
      Record fieldNames [(l.nodeBits : Int), (l.sequenceBits : Int)] text.toList := by
  constructor
  · intro h
    obtain ⟨a, b, hrecord⟩ := exists_record h
    rw [ofJson_of_record hrecord] at h
    split_ifs at h
    obtain rfl := Except.ok.inj h
    exact hrecord
  · intro h
    have hfits := l.fits
    have hn : (UInt32.ofNat l.nodeBits).toNat = l.nodeBits := toNat_ofNat_width l.nodeBits_le
    have hs : (UInt32.ofNat l.sequenceBits).toNat = l.sequenceBits :=
      toNat_ofNat_width l.sequenceBits_le
    rw [ofJson_of_record (a := .ofNat l.nodeBits) (b := .ofNat l.sequenceBits) (by rwa [hn, hs])]
    simp only [hn, hs]
    exact dif_pos hfits

theorem unescaped_fieldNames : ∀ name ∈ fieldNames, Unescaped name := by
  simp [fieldNames, Unescaped]

theorem record_toJson (l : Layout) :
    Record fieldNames [(l.nodeBits : Int), (l.sequenceBits : Int)] l.toJson.toList :=
  record_writeRecord ("node_id_bits", (l.nodeBits : Int))
    [("sequence_bits", (l.sequenceBits : Int))] unescaped_fieldNames

end Layout

/-! ## Parts -/

namespace Parts

variable {text : String} {p : Parts}

theorem inRange_of_acceptsField (n : Int) (h : acceptsField n) : Word.InRange n :=
  of_decide_eq_true h

theorem toInt_ofInt_of_acceptsField {n : Int} (h : acceptsField n) : (Int64.ofInt n).toInt = n :=
  have hrange := Word.inRange_iff.1 (of_decide_eq_true h)
  Int64.toInt_ofInt_of_le hrange.1 hrange.2

theorem ofJson_eq_ok_iff :
    ofJson text = .ok p ↔
      Record fieldNames [p.timestamp.toInt, p.node.toInt, p.sequence.toInt] text.toList := by
  constructor
  · intro h
    obtain ⟨⟨ns, tail⟩, hread, h₁⟩ := bind_eq_ok_iff.1 h
    split at h₁
    next t n s tail heq =>
      obtain ⟨rfl, rfl⟩ := Prod.mk.inj heq
      obtain ⟨⟨⟩, htail, rfl⟩ := map_eq_ok_iff.1 h₁
      obtain ⟨hrecord, haccepts⟩ :=
        (readRecord_iff inRange_of_acceptsField (by decide)).1 ⟨_, hread, htail⟩
      rw [toInt_ofInt_of_acceptsField (haccepts t (by simp)),
        toInt_ofInt_of_acceptsField (haccepts n (by simp)),
        toInt_ofInt_of_acceptsField (haccepts s (by simp))]
      exact hrecord
    next => cases h₁
  · intro h
    have haccepts : ∀ n ∈ [p.timestamp.toInt, p.node.toInt, p.sequence.toInt], acceptsField n := by
      simp [acceptsField, Word.inRange_toInt]
    obtain ⟨tail, hread, htail⟩ :=
      (readRecord_iff inRange_of_acceptsField (by decide)).2 ⟨h, haccepts⟩
    refine bind_eq_ok_iff.2 ⟨_, hread, map_eq_ok_iff.2 ⟨_, htail, ?_⟩⟩
    simp

theorem unescaped_fieldNames : ∀ name ∈ fieldNames, Unescaped name := by
  simp [fieldNames, Unescaped]

theorem record_toJson (p : Parts) :
    Record fieldNames [p.timestamp.toInt, p.node.toInt, p.sequence.toInt] p.toJson.toList :=
  record_writeRecord ("timestamp_ms", p.timestamp.toInt)
    [("node_id", p.node.toInt), ("sequence", p.sequence.toInt)] unescaped_fieldNames

end Parts

/-! ## Both -/

/-- **Documents.** The texts that are read are the records of what they are read as. -/
theorem documents_read_exactly :
    (∀ text l, Layout.ofJson text = .ok l ↔
      Record Layout.fieldNames [(l.nodeBits : Int), (l.sequenceBits : Int)] text.toList) ∧
    (∀ text p, Parts.ofJson text = .ok p ↔
      Record Parts.fieldNames [p.timestamp.toInt, p.node.toInt, p.sequence.toInt] text.toList) ∧
    (∀ l : Layout, Layout.ofJson l.toJson = .ok l) ∧
    (∀ p : Parts, Parts.ofJson p.toJson = .ok p) ∧
    (∀ text (a b : UInt32),
      Record Layout.fieldNames [(a.toNat : Int), (b.toNat : Int)] text.toList →
        Layout.ofJson text = if h : a.toNat + b.toNat ≤ 22 then .ok ⟨a.toNat, b.toNat, h⟩
          else .error (.layout (.tooManyBits a b))) ∧
    ∀ text l, Layout.ofJson text = .ok l → l.nodeBits + l.sequenceBits ≤ 22 :=
  ⟨fun _ _ => Layout.ofJson_eq_ok_iff, fun _ _ => Parts.ofJson_eq_ok_iff,
    fun l => Layout.ofJson_eq_ok_iff.2 l.record_toJson,
    fun p => Parts.ofJson_eq_ok_iff.2 p.record_toJson,
    fun _ _ _ => Layout.ofJson_of_record, fun _ l _ => l.fits⟩

/-- A spaced object with its fields the other way round, one of them under an escaped name, and
before them a value that nests, with half a surrogate pair in it. -/
def scattered : String :=
  " \x7b \"x\" : [1.5e3, \x7b\"\\ud800\" :null\x7d, [] ] ,\n" ++
    "\"sequence_bits\":12,\"node\\u005fid_bits\" : 10\t\x7d "

/-- Widths whose sum wraps around to a small one, as an array. -/
def wrapping : String := "[ 4294967295 ,23]"

theorem scattered_and_wrapping_read :
    Record Layout.fieldNames [10, 12] scattered.toList ∧
    Layout.ofJson wrapping = .error (.layout (.tooManyBits 4294967295 23)) := by
  have hwrapping : Record Layout.fieldNames [4294967295, 23] wrapping.toList :=
    ((readRecord_iff Layout.inRange_of_acceptsWidth (by decide)).1
      ⟨[], by decide +kernel, by decide +kernel⟩).1
  exact ⟨(documents_read_exactly.1 scattered .standard).1 (by decide +kernel),
    documents_read_exactly.2.2.2.2.1 wrapping 4294967295 23 hwrapping⟩

end Snowflake
