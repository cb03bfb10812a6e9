import Snowflake.Proofs.Commands
import Snowflake.Proofs.Numerals
import Snowflake.Proofs.Unpacking

/-!
# The two ways to add the offset

The decoder of the command line adds the offset to the timestamp of an id as far as the range
allows, and never fails. A generator with the same layout and offset adds it too, but fails where
the sum leaves the range. Since no offset is negative, a sum can only leave it at the upper end.

So the two agree wherever the generator does not fail (`decode_eq`), and where it fails the other
one gives the end of the range. Where it does not fail, taking the offset off again gives back the
timestamp of the id, and packing gives back the id without its sign bit.

**Theorem (`decoders_agree`).** All this holds of every id on the command line, negative ones
included. Each is printed on a line of its own, in order, and the line determines what was printed.
-/

namespace Snowflake

open Word

variable {g : Generator} {c : Config} {id : Int64} {p : Parts}

/-! ## Lines -/

theorem Config.toList_partsLine (p : Parts) :
    (partsLine p).toList = (Text.word p.timestamp).toList ++
      ' ' :: ((Text.word p.node).toList ++ ' ' :: (Text.word p.sequence).toList) := by
  simp [partsLine]

/-- A numeral ends at the blank that follows it. -/
theorem Text.word_append_inj {a b : Int64} {rest rest' : List Char}
    (h : (word a).toList ++ ' ' :: rest = (word b).toList ++ ' ' :: rest') :
    a = b ∧ rest = rest' := by
  have hword : ∀ (w : Int64) rest,
      ((word w).toList ++ ' ' :: rest).takeWhile (! isBlank ·) = (word w).toList := by
    intro w rest
    rw [List.takeWhile_append_of_pos fun c hc => by simp [not_blank_of_mem_word hc],
      List.takeWhile_cons_of_neg (by decide), List.append_nil]
  have hfirst : (word a).toList = (word b).toList := by rw [← hword a rest, h, hword]
  rw [hfirst] at h
  exact ⟨word_injective (String.toList_injective hfirst),
    (List.cons.inj (List.append_cancel_left h)).2⟩

theorem Config.partsLine_injective : Function.Injective partsLine := by
  intro p q h
  have h := congrArg String.toList h
  rw [toList_partsLine, toList_partsLine] at h
  obtain ⟨htime, h⟩ := Text.word_append_inj h
  obtain ⟨hnode, h⟩ := Text.word_append_inj h
  exact Parts.mk.injEq .. ▸ ⟨htime, hnode, Text.word_injective (String.toList_injective h)⟩

/-! ## Sums -/

/-- No offset is negative, so only the upper end of the range can be passed. -/
theorem Generator.inRange_offset (g : Generator) (time : Int64) :
    InRange (time.toInt + g.offset.toInt) ↔ time.toInt + g.offset.toInt ≤ Int64.maxValue.toInt := by
  have hoffset : 0 ≤ g.offset.toInt := Int64.le_iff_toInt_le.1 g.offset_nonneg
  have hlow := time.le_toInt
  rw [inRange_iff, Int64.toInt_maxValue]
  omega

/-- The generator gives the parts that the command line gives, unless its sum leaves the range. -/
theorem Generator.decode_eq (hlayout : g.layout = c.layout) (hoffset : g.offset = c.offset)
    (id : Int64) :
    g.decode id =
      if Int64.maxValue.toInt < (g.layout.decode id).timestamp.toInt + g.offset.toInt then
        .error .additionOverflow
      else .ok (c.decode id) := by
  unfold decode
  split_ifs with h
  · have hnone : addChecked? (g.layout.decode id).timestamp g.offset = none := by
      rw [addChecked?_eq_none_iff, inRange_offset]
      omega
    simp only [hnone]
  · have hsome := addChecked?_eq_addSaturating ((g.inRange_offset _).2 (Int.not_lt.1 h))
    simp only [hsome]
    simp only [Config.decode, hlayout, hoffset]

/-! ## Agreement -/

/-- The generator decodes the id to these parts, unless its sum leaves the range; then they stop at
the end of the range. -/
structure Generator.Agrees (g : Generator) (id : Int64) (p : Parts) : Prop where
  decoded : g.decode id = .ok p ∨ g.decode id = .error .additionOverflow
  overflow_iff : g.decode id = .error .additionOverflow ↔
    Int64.maxValue.toInt < (g.layout.decode id).timestamp.toInt + g.offset.toInt
  saturated : g.decode id = .error .additionOverflow → p.timestamp = Int64.maxValue
  /-- The offset can be taken off again, and the parts packed to the id without its sign bit. -/
  encoded : g.decode id ≠ .error .additionOverflow →
    (p.timestamp - g.offset).toInt = p.timestamp.toInt - g.offset.toInt ∧
      g.layout.encode { p with timestamp := p.timestamp - g.offset } = id &&& Int64.maxValue

theorem Generator.agrees_decode (hlayout : g.layout = c.layout) (hoffset : g.offset = c.offset)
    (id : Int64) : g.Agrees id (c.decode id) := by
  have hdecode := decode_eq hlayout hoffset id
  have htime : (c.decode id).timestamp =
      addSaturating (g.layout.decode id).timestamp g.offset := by rw [hlayout, hoffset]; rfl
  split_ifs at hdecode with h
  · exact
      { decoded := .inr hdecode
        overflow_iff := iff_of_true hdecode h
        saturated := fun _ => htime.trans (addSaturating_of_gt h)
        encoded := fun hne => absurd hdecode hne }
  · have hne : g.decode id ≠ .error .additionOverflow := by simp [hdecode]
    have hrange := (g.inRange_offset _).2 (Int.not_lt.1 h)
    have hsum : (c.decode id).timestamp.toInt =
        (g.layout.decode id).timestamp.toInt + g.offset.toInt := by
      rw [htime]
      exact addChecked?_eq_some_iff.1 (addChecked?_eq_addSaturating hrange)
    have hback : (c.decode id).timestamp - g.offset = (g.layout.decode id).timestamp := by
      rw [Int64.toInt.inj (hsum.trans (toInt_add_of_inRange hrange).symm), Int64.add_sub_cancel]
    exact
      { decoded := .inl hdecode
        overflow_iff := iff_of_false hne h
        saturated := fun herror => absurd herror hne
        encoded := fun _ => by
          refine ⟨by rw [hback, hsum, add_sub_cancel_right], ?_⟩
          rw [hback, ← g.layout.encode_decode id, hlayout]
          rfl }

/-! ## The command -/

/-- **Agreement.** Of an accepted configuration, decoding ids never fails. It prints a line for each
id, in order, from which the three numbers can be read. They are those to which every generator with
the same layout and offset decodes the id, unless its sum leaves the range; and there is such a
generator. -/
theorem Config.decoders_agree {a : Arguments} (hc : ofArguments a = .ok c) {ids : List Int64}
    (hcommand : c.command = .decode ids) (clock : Clock) :
    Function.Injective partsLine ∧ (c.run clock).failure = none ∧
    (∃ g : Generator, g.layout = c.layout ∧ g.nodeId = c.nodeId ∧ g.offset = c.offset) ∧
    ∀ g : Generator, g.layout = c.layout → g.offset = c.offset →
      List.Forall₂ (fun id line => ∃ p, line = partsLine p ∧ g.Agrees id p) ids
        (c.run clock).lines := by
  obtain ⟨g, -, hg⟩ := exists_create hc (Int64.le_refl c.offset)
  refine ⟨partsLine_injective, by simp [run, hcommand], ⟨g, hg⟩, fun g hlayout hoffset => ?_⟩
  simp only [run, hcommand, List.forall₂_map_right_iff]
  exact List.forall₂_same.2 fun id _ => ⟨c.decode id, rfl, g.agrees_decode hlayout hoffset id⟩

/-- The largest word, a negative one and a small one, with no bits for node and sequence. -/
def bare : Arguments :=
  { nodeBits := 0, sequenceBits := 0, offset := 1000, command := .decode [Int64.maxValue, -1, 5] }

/-- There is no room to add the offset to the largest word. A negative word is its own timestamp. -/
theorem Config.bare_decoders_agree :
    ∃ c, ofArguments bare = .ok c ∧ c.command = .decode [Int64.maxValue, -1, 5] ∧
      (c.run (.fixed 0)).lines = ["9223372036854775807 0 0", "999 0 0", "1005 0 0"] ∧
      ∃ g : Generator, g.layout = c.layout ∧ g.offset = c.offset ∧
        g.decode Int64.maxValue = .error .additionOverflow ∧ g.decode (-1) = .ok ⟨999, 0, 0⟩ ∧
        g.layout.encode ⟨999 - g.offset, 0, 0⟩ = Int64.maxValue := by
  have hc : ofArguments bare =
      .ok ⟨⟨0, 0, by decide⟩, 0, 1000, .decode [Int64.maxValue, -1, 5]⟩ := by decide +kernel
  obtain ⟨hinj, -, ⟨g, hlayout, -, hoffset⟩, hagree⟩ := decoders_agree hc rfl (.fixed 0)
  have hlines : (run ⟨⟨0, 0, by decide⟩, 0, 1000, .decode [Int64.maxValue, -1, 5]⟩
      (.fixed 0)).lines = ["9223372036854775807 0 0", "999 0 0", "1005 0 0"] := by decide +kernel
  have hids := hagree g hlayout hoffset
  rw [hlines, List.forall₂_cons, List.forall₂_cons] at hids
  obtain ⟨⟨_, -, hlargest⟩, ⟨p, hline, hnegative⟩, -⟩ := hids
  obtain rfl : ⟨999, 0, 0⟩ = p := hinj ((by decide +kernel : partsLine _ = _).trans hline)
  have hoverflow : g.decode Int64.maxValue = .error .additionOverflow := by
    rw [hlargest.overflow_iff, hlayout, hoffset]
    decide
  have hfits : g.decode (-1) ≠ .error .additionOverflow := by
    rw [ne_eq, hnegative.overflow_iff, hlayout, hoffset]
    decide
  exact ⟨_, hc, rfl, hlines, g, hlayout, hoffset, hoverflow,
    hnegative.decoded.resolve_right hfits, (hnegative.encoded hfits).2⟩

end Snowflake
