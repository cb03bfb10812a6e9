import Snowflake.Proofs.Commands
import Snowflake.Proofs.Nodes
import Snowflake.Proofs.Numerals
import Snowflake.Proofs.Order
import Snowflake.Proofs.Workers

/-!
# Generated ids are decoded again

The ids that a command prints are those of one chain of commits, in the order of the chain. So each
of them holds the reading of the attempt that minted it, relative to the offset, and the decoder
gives back this reading by adding the offset again. It adds in a way that stops at the end of the
range, but the sum is a reading and never gets there.

**Theorem (`generated_ids_decode`).** If generating succeeds on readings within the layout, in
whatever order the workers take their steps, it prints as many ids as were asked for. Decoding the
printed ids gives a line for each, in order, with the node id of the configuration and the reading
at which the id was minted; timestamps and sequence numbers ascend.
-/

namespace Snowflake

open Generator

/-! ## Attempts that minted -/

/-- The records of the attempts that committed an id. -/
def Generator.minting (records : List Record) : List Record := records.filter (·.id?.isSome)

theorem Generator.map_id?_minting (records : List Record) :
    (minting records).map Record.id? = (records.filterMap Record.id?).map some := by
  induction records with
  | nil => rfl
  | cons r records ih =>
    unfold minting at ih ⊢
    cases hid : r.id? <;> simp [hid, ih]

namespace Config

variable {a : Arguments} {c : Config} {g : Generator} {count threads : UInt64} {start : Int64}
  {schedule : List (Nat × Move)} {out : Output} {id id' reading : Int64}

/-- The configuration with the command to decode these ids. -/
def decoding (c : Config) (ids : List Int64) : Config := { c with command := .decode ids }

/-- What was printed are these ids, each minted by an attempt of the schedule. Decoding gives back
the readings of these attempts, in order, and the node id of the configuration. -/
structure ReadsBack (c : Config) (g : Generator) (count threads : UInt64)
    (schedule : List (Nat × Move)) (out : Output) (ids : List Int64) : Prop where
  failure : out.failure = none
  lines : out.lines = ids.map Text.word
  /-- The printed lines are numerals of the ids. -/
  numerals : out.lines.map (fun line => Text.word? line.toList) = ids.map some
  length : ids.length = count.toNat
  minted : (minting (g.records (max threads 1).toNat (Pool.accesses schedule))).map Record.id? =
    ids.map some
  decoded : ∀ clock, ((c.decoding ids).run clock).failure = none ∧
    ((c.decoding ids).run clock).lines = (ids.map c.decode).map partsLine
  timestamps : (ids.map c.decode).map Parts.timestamp =
    (minting (g.records (max threads 1).toNat (Pool.accesses schedule))).map (·.reading)
  nodes : ∀ id ∈ ids, (c.decode id).node = c.nodeId
  /-- The sum with the offset stays within the range. -/
  exact_sum : ∀ id ∈ ids, (c.decode id).timestamp.toInt =
    (c.layout.decode id).timestamp.toInt + c.offset.toInt
  ascending : (ids.map c.decode).Pairwise fun p q =>
    p.timestamp < q.timestamp ∨ p.timestamp = q.timestamp ∧ p.sequence < q.sequence

theorem addSaturating_relative (h : 0 ≤ (g.relative reading).toInt) :
    Word.addSaturating (g.relative reading) g.offset = reading := by
  have hlow := reading.le_toInt
  have hhigh := reading.toInt_lt
  apply Int64.toInt.inj
  rw [Word.toInt_addSaturating, toInt_relative_of_nonneg h]
  omega

/-- **Decoding a chain.** On readings within the layout, the decoder gives back the reading of each
id, and adding the offset does not leave the range. -/
theorem decode_mints {rs ids : List Int64} {w : Int64} (h : Mints g rs w ids)
    (hlayout : g.layout = c.layout) (hoffset : g.offset = c.offset)
    (hr : ∀ reading ∈ rs, g.relative reading ≤ g.layout.maxTimestamp) :
    (ids.map c.decode).map Parts.timestamp = rs ∧
      ∀ id ∈ ids, (c.decode id).timestamp.toInt =
        (c.layout.decode id).timestamp.toInt + c.offset.toInt := by
  have hkept : ∀ reading ∈ rs, g.layout.kept (g.relative reading) = g.relative reading := by
    intro reading hreading
    exact Layout.kept_of_le (h.relative_nonneg reading hreading) (hr reading hreading)
  have htimes : ids.map c.layout.timestampOf = rs.map g.relative := by
    rw [← hlayout, h.map_timestampOf]
    exact List.map_congr_left hkept
  constructor
  · have hall : (ids.map c.layout.timestampOf).map (Word.addSaturating · c.offset) = rs := by
      rw [htimes, List.map_map, ← hoffset]
      refine (List.map_congr_left fun reading hreading => ?_).trans (List.map_id rs)
      exact addSaturating_relative (h.relative_nonneg reading hreading)
    rw [List.map_map] at hall ⊢
    exact hall
  · intro id hid
    have hmem : c.layout.timestampOf id ∈ rs.map g.relative := by
      rw [← htimes]
      exact List.mem_map_of_mem hid
    obtain ⟨reading, hreading, htime⟩ := List.mem_map.1 hmem
    have hnonneg := h.relative_nonneg reading hreading
    have hsum : (c.decode id).timestamp = reading := by
      show Word.addSaturating (c.layout.timestampOf id) c.offset = reading
      rw [← htime, ← hoffset, addSaturating_relative hnonneg]
    rw [hsum, show (c.layout.decode id).timestamp = _ from htime.symm, ← hoffset]
    rw [toInt_relative_of_nonneg hnonneg]
    omega

/-- Of one node, ids in order have their timestamps and sequence numbers in order, also with the
offset added. -/
theorem decode_lt (hid : 0 ≤ id) (hid' : 0 ≤ id') (hlt : id < id')
    (hnode : (c.decode id).node = (c.decode id').node)
    (hsum : (c.decode id).timestamp.toInt = (c.layout.decode id).timestamp.toInt + c.offset.toInt)
    (hsum' : (c.decode id').timestamp.toInt =
      (c.layout.decode id').timestamp.toInt + c.offset.toInt) :
    (c.decode id).timestamp < (c.decode id').timestamp ∨
      (c.decode id).timestamp = (c.decode id').timestamp ∧
        (c.decode id).sequence < (c.decode id').sequence := by
  have hsame : (c.layout.decode id).node = (c.layout.decode id').node := hnode
  rcases (Layout.lt_iff_decode_lt (l := c.layout) hid hid').1 hlt with hless | ⟨heq, hrest⟩
  · left
    rw [Int64.lt_iff_toInt_lt] at hless ⊢
    omega
  · right
    refine ⟨Int64.toInt.inj (by rw [hsum, hsum', heq]), ?_⟩
    rcases hrest with hless | ⟨-, hless⟩
    · rw [hsame] at hless
      exact (Int64.lt_irrefl hless).elim
    · exact hless

/-- **One order of steps.** If generating succeeds, what it prints is read back. -/
theorem readsBack_of_generates (hc : ofArguments a = .ok c) (hstart : c.offset ≤ start)
    (hr : ∀ reading ∈ readings (Pool.accesses schedule),
      Word.subSaturating reading c.offset ≤ c.layout.maxTimestamp)
    (hout : c.Generates count threads start schedule out)
    (hsucceeds : ∀ cause, out.failure ≠ some (.generation cause)) :
    ∃ g ids, Generator.create c.layout c.nodeId c.offset start =
        .ok (g, [.created c.layout c.nodeId c.offset]) ∧
      c.ReadsBack g count threads schedule out ids := by
  obtain ⟨g, hcreate, hlayout, hnode, hoffset⟩ := exists_create hc hstart
  refine ⟨g, ?_⟩
  cases hout with
  | refused h =>
    rw [hcreate] at h
    cases h
  | @drawn g' events p h hp hdone =>
    rw [hcreate] at h
    obtain ⟨rfl, rfl⟩ := Prod.mk.inj (Except.ok.inj h)
    have hnone : ∀ w ∈ p.workers, w.failure? = none := by
      by_contra hfails
      push Not at hfails
      obtain ⟨-, -, cause, -, -, -, hresult⟩ := Pool.result_eq_error hfails
      exact hsucceeds cause (by rw [hresult]; rfl)
    obtain ⟨s, hs, hmirrors⟩ := (Pool.mirrors_ofCount 0 count (max threads 1)).run hp
    have hfresh : (Shared.fresh (max threads 1).toNat).run g (Pool.accesses schedule) = some s := hs
    obtain ⟨w, hw, rfl, hrecords⟩ := Recording.exists_of_run hfresh
    have hfits : ∀ reading ∈ readings (Pool.accesses schedule),
        g.relative reading ≤ g.layout.maxTimestamp := by
      rw [hlayout]
      intro reading hreading
      rw [relative, hoffset]
      exact hr reading hreading
    have hmints := mints_run hw
    have hascending := ascending_run hw hfits
    have hresult : p.result = .ok w.shared.ids :=
      Pool.result_eq_ok hmirrors.ids hascending.2 hnone
    obtain ⟨htimestamps, hsums⟩ := decode_mints hmints hlayout hoffset
      fun reading hreading => hfits reading (committed_subset hw hreading)
    have hnodes : ∀ id ∈ w.shared.ids, (c.decode id).node = c.nodeId := by
      intro id hid
      have hid := hmints.node_eq id hid
      rw [hlayout, hnode] at hid
      exact hid
    refine ⟨w.shared.ids, hcreate, ?_⟩
    rw [hresult]
    exact
      { failure := rfl
        lines := rfl
        numerals := by
          simp [Output.ofDrawn, Function.comp_def, Text.word?_word]
        length := by rw [← hmirrors.ids.length_eq, Pool.length_ids_of_finished hp hdone hnone]
        minted := by
          rw [hrecords, map_id?_minting, ids_eq_records (Recording.timed_run hw)]
        decoded := by
          intro clock
          simp [run, decoding, Function.comp_def, decode]
        timestamps := by
          rw [hrecords]
          exact htimestamps
        nodes := hnodes
        exact_sum := hsums
        ascending := by
          rw [List.pairwise_map]
          refine hascending.2.imp_of_mem ?_
          intro id id' hid hid' hlt
          exact decode_lt (hascending.1 id hid) (hascending.1 id' hid') hlt
            ((hnodes id hid).trans (hnodes id' hid').symm) (hsums id hid) (hsums id' hid') }

/-- **Round trip.** Of an accepted configuration, once the clock has reached the offset and as long
as its readings are within the layout: if generating succeeds, in whatever order the workers take
their steps, the printed ids are as many as were asked for and are read back by the decoder. The
command takes one of these orders, on the readings that follow that of the construction. -/
theorem generated_ids_decode {a : Arguments} {c : Config} (hc : ofArguments a = .ok c)
    {count threads : UInt64} (hcommand : c.command = .generate count threads) :
    (∀ start schedule out, c.offset ≤ start →
      (∀ reading ∈ readings (Pool.accesses schedule),
        Word.subSaturating reading c.offset ≤ c.layout.maxTimestamp) →
      c.Generates count threads start schedule out →
      (∀ cause, out.failure ≠ some (.generation cause)) →
        ∃ g ids, Generator.create c.layout c.nodeId c.offset start =
            .ok (g, [.created c.layout c.nodeId c.offset]) ∧
          c.ReadsBack g count threads schedule out ids) ∧
    ∀ readingAt k, c.offset ≤ readingAt k →
      (∀ n, k < n → Word.subSaturating (readingAt n) c.offset ≤ c.layout.maxTimestamp) →
      let out := c.run (.stream readingAt k)
      out.failure ≠ some .endless → (∀ cause, out.failure ≠ some (.generation cause)) →
        ∃ schedule n g ids,
          readings (Pool.accesses schedule) = (List.range' (k + 1) n).map readingAt ∧
          Generator.create c.layout c.nodeId c.offset (readingAt k) =
            .ok (g, [.created c.layout c.nodeId c.offset]) ∧
          c.ReadsBack g count threads schedule out ids := by
  constructor
  · intro start schedule out hstart hr hout hsucceeds
    exact readsBack_of_generates hc hstart hr hout hsucceeds
  · intro readingAt k hstart hr out hends hsucceeds
    obtain ⟨schedule, n, hout, hgiven⟩ := exists_generates hcommand hends
    have hfits : ∀ reading ∈ readings (Pool.accesses schedule),
        Word.subSaturating reading c.offset ≤ c.layout.maxTimestamp := by
      rw [hgiven]
      intro reading hreading
      obtain ⟨m, hm, rfl⟩ := List.mem_map.1 hreading
      exact hr m (by have := (List.mem_range'_1.1 hm).1; omega)
    obtain ⟨g, ids, hcreate, hback⟩ := readsBack_of_generates hc hstart hfits hout hsucceeds
    exact ⟨schedule, n, g, ids, hgiven, hcreate, hback⟩

/-- Three ids of node 1, drawn by two workers. -/
def request : Arguments :=
  { nodeBits := 1, sequenceBits := 1, nodeId := 1, offset := 1000, command := .generate 3 2 }

/-- The request once it has been checked. -/
def requested : Config := ⟨paired.layout, 1, 1000, .generate 3 2⟩

/-- The first worker loses an exchange to the second, and then draws both its ids. -/
def handover : List (Nat × Move) :=
  [(0, .access .load), (1, .access .load), (0, .access (.read 1003)), (1, .access (.read 1003)),
    (1, .access .exchange), (0, .access .exchange), (0, .answer false), (0, .access .load),
    (0, .access (.read 1003)), (0, .access .exchange), (0, .access .load),
    (0, .access (.read 1005)), (0, .access .exchange)]

/-- A clock that moves on once, by two milliseconds. -/
def leap (k : Nat) : Int64 := if k < 4 then 1003 else 1005

/-- The three ids of the schedule are decoded to their readings. On the clock that leaps, the
command prints three ids as well. -/
theorem request_round_trips :
    ofArguments request = .ok requested ∧ requested.offset ≤ 1002 ∧
    (∀ reading ∈ readings (Pool.accesses handover),
      Word.subSaturating reading requested.offset ≤ requested.layout.maxTimestamp) ∧
    (∃ out, requested.Generates 3 2 1002 handover out ∧
      out.lines = [14, 15, 22].map Text.word ∧
      ([14, 15, 22].map requested.decode).map Parts.timestamp = [1003, 1003, 1005] ∧
      ((requested.decoding [14, 15, 22]).run (.fixed 0)).lines =
        ["1003 1 0", "1003 1 1", "1005 1 0"]) ∧
    ∃ ids : List Int64, (requested.run (.stream leap 0)).lines = ids.map Text.word ∧
      ids.length = 3 ∧ ∀ id ∈ ids, (requested.decode id).node = 1 := by
  have hc : ofArguments request = .ok requested := by decide +kernel
  have hstart : requested.offset ≤ 1002 := by decide
  have hfits : ∀ reading ∈ readings (Pool.accesses handover),
      Word.subSaturating reading requested.offset ≤ requested.layout.maxTimestamp :=
    List.all_iff_forall_prop.1 (by decide +kernel)
  have hcreate : Generator.create requested.layout requested.nodeId requested.offset 1002 =
      .ok (paired, [.created requested.layout requested.nodeId requested.offset]) := rfl
  obtain ⟨hschedules, hclocks⟩ :=
    generated_ids_decode hc (rfl : requested.command = .generate 3 2)
  refine ⟨hc, hstart, hfits, ?_, ?_⟩
  · have hends : ((Pool.ofCount 0 3 (max 2 1)).steps? paired handover).map
        (fun p => (p.workers.all Worker.isFinished, p.result.toOption.isSome)) =
          some (true, true) := by decide +kernel
    obtain ⟨p, hp, hends⟩ := Option.map_eq_some_iff.1 hends
    obtain ⟨hdone, hok⟩ := Prod.mk.inj hends
    have hout : requested.Generates 3 2 1002 handover _ :=
      .drawn hcreate hp (List.all_eq_true.1 hdone)
    obtain ⟨ids, hresult⟩ : ∃ ids, p.result = .ok ids := by
      cases hresult : p.result with
      | ok ids => exact ⟨ids, rfl⟩
      | error cause => simp [hresult, Except.toOption] at hok
    obtain ⟨g, ids, hg, hback⟩ := hschedules 1002 handover _ hstart hfits hout
      (by simp [hresult, Output.ofDrawn])
    obtain ⟨rfl, -⟩ := Prod.mk.inj (Except.ok.inj (hcreate.symm.trans hg))
    have hminted : (minting (paired.records 2 (Pool.accesses handover))).map Record.id? =
        [14, 15, 22].map some := by decide +kernel
    obtain rfl : ids = [14, 15, 22] :=
      List.map_injective_iff.2 (Option.some_injective _) (hback.minted.symm.trans hminted)
    exact ⟨_, hout, hback.lines, hback.timestamps.trans (by decide +kernel),
      (hback.decoded _).2.trans (by decide +kernel)⟩
  · have hok : (requested.run (.stream leap 0)).failure = none := by decide +kernel
    have hleap : ∀ n, 0 < n →
        Word.subSaturating (leap n) requested.offset ≤ requested.layout.maxTimestamp := by
      intro n _
      unfold leap
      split_ifs <;> decide +kernel
    obtain ⟨schedule, n, g, ids, -, -, hback⟩ :=
      hclocks leap 0 (by decide) hleap (by simp [hok]) (by simp [hok])
    exact ⟨ids, hback.lines, hback.length, hback.nodes⟩

end Config

end Snowflake
