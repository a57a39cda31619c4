import Console6502.InstructionSet
import Mathlib.Data.List.Nodup

namespace Console6502

namespace Definition

/-- Definitions that a table can hold together. -/
structure Consistent (ds : List Definition) : Prop where
  distinct : (ds.map opcode).Nodup
  supported : ∀ d ∈ ds, d.instruction.isSupported

/-- What is wrong with a definition behind those before it. One that repeats an opcode is a
duplicate, whether its mode fits or not. -/
inductive Wrong (before : List Definition) (d : Definition) : DefinitionError → Prop
  | duplicate {e : Definition} (listed : e ∈ before) (same : e.opcode = d.opcode) :
      Wrong before d (.duplicateOpcode d.opcode e.mnemonic)
  | unsupported (fresh : ∀ e ∈ before, e.opcode ≠ d.opcode) (unfit : ¬ d.instruction.isSupported) :
      Wrong before d (.unsupportedMode d.opcode d.mnemonic d.mode)

variable {ds es before rest : List Definition} {d e : Definition}

theorem Consistent.nil : Consistent [] := ⟨.nil, nofun⟩

theorem Consistent.concat (h : Consistent before) (fresh : ∀ e ∈ before, e.opcode ≠ d.opcode)
    (fits : d.instruction.isSupported) : Consistent (before ++ [d]) := by
  constructor
  · rw [List.map_append, List.nodup_append']
    refine ⟨h.distinct, List.nodup_singleton _, ?_⟩
    rintro opcode listed (_ | ⟨_, ⟨⟩⟩)
    obtain ⟨e, he, same⟩ := List.mem_map.mp listed
    exact fresh e he same
  · intro e he
    rcases List.mem_append.mp he with he | he
    · exact h.supported e he
    · rw [List.mem_singleton.mp he]
      exact fits

theorem Consistent.perm (h : Consistent ds) (same : es.Perm ds) : Consistent es where
  distinct := (same.map opcode).nodup_iff.mpr h.distinct
  supported d hd := h.supported d (same.mem_iff.mp hd)

/-- No table can hold a definition that is wrong behind those before it. -/
theorem Wrong.not_consistent {error : DefinitionError} (h : Wrong before d error) :
    ¬ Consistent (before ++ d :: rest) := by
  intro consistent
  cases h with
  | duplicate listed same =>
    have distinct := consistent.distinct
    rw [List.map_append, List.nodup_append'] at distinct
    exact distinct.2.2 (List.mem_map_of_mem listed) (same ▸ List.mem_cons_self)
  | unsupported _ unfit => exact unfit (consistent.supported d (by simp))

end Definition

namespace InstructionSet

open Definition

/-- A table of these definitions and no others. -/
def Lists (set : InstructionSet) (ds : List Definition) : Prop :=
  ∀ d : Definition, set.get? d.opcode = some d.instruction ↔ d ∈ ds

theorem ext_get? {a b : InstructionSet} (h : ∀ opcode, a.get? opcode = b.get? opcode) : a = b := by
  obtain ⟨cells, _⟩ := a
  obtain ⟨others, _⟩ := b
  have same : cells = others := by
    ext1 n hn
    have := h (UInt8.ofNat n)
    simpa only [get?, UInt8.toNat_ofNat_of_lt' hn] using this
  subst same
  rfl

variable {set other : InstructionSet} {ds es before : List Definition} {d : Definition}

theorem lists_empty : empty.Lists [] := by
  intro d
  rw [get?_empty]
  exact ⟨nofun, nofun⟩

namespace Lists

theorem get?_of_mem (h : set.Lists ds) (hd : d ∈ ds) : set.get? d.opcode = some d.instruction :=
  (h d).mpr hd

theorem mem_of_get? (h : set.Lists ds) {opcode : Byte} {i : Instruction}
    (found : set.get? opcode = some i) : ⟨opcode, i.mnemonic, i.mode⟩ ∈ ds :=
  (h ⟨opcode, i.mnemonic, i.mode⟩).mp found

theorem get?_eq_none (h : set.Lists ds) {opcode : Byte} (fresh : ∀ d ∈ ds, d.opcode ≠ opcode) :
    set.get? opcode = none := by
  cases found : set.get? opcode with
  | none => rfl
  | some i => exact absurd rfl (fresh _ (h.mem_of_get? found))

theorem perm (h : set.Lists ds) (same : es.Perm ds) : set.Lists es :=
  fun d => (h d).trans same.mem_iff.symm

/-- A table is determined by its definitions. -/
theorem unique (h : set.Lists ds) (h' : other.Lists ds) : set = other := by
  refine ext_get? fun opcode => Option.ext fun i => ?_
  exact (h ⟨opcode, i.mnemonic, i.mode⟩).trans (h' ⟨opcode, i.mnemonic, i.mode⟩).symm

theorem insert (h : set.Lists before) (fresh : ∀ e ∈ before, e.opcode ≠ d.opcode)
    (fits : d.instruction.isSupported) :
    (set.insert d.opcode d.instruction fits).Lists (before ++ [d]) := by
  intro e
  rw [get?_insert, List.mem_append, List.mem_singleton]
  split
  case isTrue same =>
    have new : e ∉ before := fun he => fresh e he same.symm
    cases d; cases e
    cases same
    simp [new, instruction, eq_comm]
  case isFalse differs =>
    have old : e ≠ d := fun same => differs (same ▸ rfl)
    rw [h e, or_iff_left old]

end Lists

/-- Entering a definition either adds it to the table or tells what is wrong with it. -/
theorem define_cases (h : set.Lists before) (consistent : Consistent before) (d : Definition) :
    (∃ next, set.define d = .ok next ∧ next.Lists (before ++ [d]) ∧
      Consistent (before ++ [d])) ∨
      ∃ error, set.define d = .error error ∧ Wrong before d error := by
  rw [define]
  cases found : set.get? d.opcode with
  | some i => exact .inr ⟨_, rfl, .duplicate (h.mem_of_get? found) rfl⟩
  | none =>
    have fresh : ∀ e ∈ before, e.opcode ≠ d.opcode := by
      intro e he same
      have taken := h.get?_of_mem he
      rw [same, found] at taken
      cases taken
    by_cases fits : d.instruction.isSupported
    · exact .inl ⟨_, dif_pos fits, h.insert fresh fits, consistent.concat fresh fits⟩
    · exact .inr ⟨_, dif_neg fits, .unsupported fresh fits⟩

/-- A run over definitions enters all of them or stops at the first that is wrong. -/
theorem defineAll_cases (h : set.Lists before) (consistent : Consistent before)
    (ds : List Definition) :
    (∃ built, set.defineAll ds = .ok built ∧ built.Lists (before ++ ds) ∧
      Consistent (before ++ ds)) ∨
      ∃ first d rest error, set.defineAll ds = .error error ∧ ds = first ++ d :: rest ∧
        Consistent (before ++ first) ∧ Wrong (before ++ first) d error := by
  induction ds generalizing set before with
  | nil =>
    rw [List.append_nil]
    exact .inl ⟨set, rfl, h, consistent⟩
  | cons d ds ih =>
    rw [defineAll]
    obtain ⟨next, entered, lists, still⟩ | ⟨error, refused, wrong⟩ := define_cases h consistent d
    · rw [entered]
      obtain ⟨built, ok, listed, fine⟩ | ⟨first, e, rest, error, failed, rfl, fine, wrong⟩ :=
        ih lists still
      · rw [List.append_assoc] at listed fine
        exact .inl ⟨built, ok, listed, fine⟩
      · rw [List.append_assoc] at fine wrong
        exact .inr ⟨d :: first, e, rest, error, failed, rfl, fine, wrong⟩
    · rw [refused]
      rw [← before.append_nil] at consistent wrong
      exact .inr ⟨[], d, ds, error, rfl, rfl, consistent, wrong⟩

theorem ofDefinitions_cases (ds : List Definition) :
    (∃ set, ofDefinitions ds = .ok set ∧ set.Lists ds ∧ Consistent ds) ∨
      ∃ first d rest error, ofDefinitions ds = .error error ∧ ds = first ++ d :: rest ∧
        Consistent first ∧ Wrong first d error :=
  defineAll_cases lists_empty .nil ds

/-- A jump has no implicit form, but what is reported is that the opcode is taken. -/
example : ofDefinitions [⟨0xA9, .lda, .immediate⟩, ⟨0xA9, .jmp, .implicit⟩] =
    .error (.duplicateOpcode 0xA9 .lda) := by
  rfl

/-- Consistent definitions build the one table that lists them. -/
theorem ofDefinitions_of_lists (h : set.Lists ds) (consistent : Consistent ds) :
    ofDefinitions ds = .ok set := by
  obtain ⟨built, ok, lists, _⟩ | ⟨first, d, rest, error, _, rfl, _, wrong⟩ :=
    ofDefinitions_cases ds
  · rw [ok, lists.unique h]
  · exact absurd consistent wrong.not_consistent

section

variable (set)

theorem lists_toList : set.Lists set.toList := by
  intro d
  simp only [toList, List.mem_filterMap, List.mem_range, Option.map_eq_some_iff]
  constructor
  · intro found
    refine ⟨d.opcode.toNat, d.opcode.toNat_lt, d.instruction, ?_⟩
    rw [UInt8.ofNat_toNat]
    exact ⟨found, rfl⟩
  · rintro ⟨n, _, i, found, rfl⟩
    exact found

theorem toList_increasing : set.toList.Pairwise fun d e => d.opcode < e.opcode := by
  rw [toList, List.pairwise_filterMap]
  refine List.pairwise_lt_range.imp_of_mem ?_
  intro m n hm hn less d hd e he
  obtain ⟨_, _, rfl⟩ := Option.map_eq_some_iff.mp hd
  obtain ⟨_, _, rfl⟩ := Option.map_eq_some_iff.mp he
  rw [UInt8.lt_iff_toNat_lt, UInt8.toNat_ofNat_of_lt' (List.mem_range.mp hm),
    UInt8.toNat_ofNat_of_lt' (List.mem_range.mp hn)]
  exact less

theorem consistent_toList : Consistent set.toList where
  distinct := List.pairwise_map.mpr (set.toList_increasing.imp UInt8.ne_of_lt)
  supported _ hd := isSupported_of_get? (set.lists_toList.get?_of_mem hd)

/-- The entries of any table build it again. -/
theorem ofDefinitions_toList : ofDefinitions set.toList = .ok set :=
  ofDefinitions_of_lists set.lists_toList set.consistent_toList

theorem cells_eq : set.table.toList = (List.range 256).map fun n => set.get? (UInt8.ofNat n) := by
  apply List.ext_getElem
  · rw [Vector.length_toList, List.length_map, List.length_range]
  · intro n hn _
    rw [Vector.length_toList] at hn
    simp only [Vector.getElem_toList, List.getElem_map, List.getElem_range, get?,
      UInt8.toNat_ofNat_of_lt' hn]

theorem size_eq_length : set.size = set.toList.length := by
  rw [size, cells_eq, toList, ← List.countP_eq_length_filter, List.countP_map,
    List.length_filterMap_eq_countP]
  congr 1
  funext n
  exact Option.isSome_map.symm

end

theorem Lists.perm_toList (h : set.Lists ds) (consistent : Consistent ds) :
    set.toList.Perm ds := by
  refine (List.perm_ext_iff_of_nodup (set.consistent_toList.distinct.of_map _)
    (consistent.distinct.of_map _)).mpr ?_
  exact fun d => (set.lists_toList d).symm.trans (h d)

/-- Definitions build a table exactly when they are consistent, and it holds them whatever their
order. Otherwise the first of them that repeats an opcode or has a mode that does not fit is
refused, with what is wrong with it behind those before it. -/
theorem ofDefinitions_exact (ds : List Definition) :
    ((∃ set, ofDefinitions ds = .ok set) ↔ Consistent ds) ∧
      match ofDefinitions ds with
      | .ok set =>
        (∀ d ∈ ds, set.get? d.opcode = some d.instruction) ∧
          (∀ opcode, (∀ d ∈ ds, d.opcode ≠ opcode) → set.get? opcode = none) ∧
          set.size = ds.length ∧ set.toList.Perm ds ∧
          (set.toList.Pairwise fun d e => d.opcode < e.opcode) ∧
          (∀ es : List Definition, es.Perm ds → ofDefinitions es = .ok set) ∧
          ofDefinitions set.toList = .ok set
      | .error error =>
        ∃ first d rest, ds = first ++ d :: rest ∧ Consistent first ∧ Wrong first d error := by
  obtain ⟨set, ok, lists, consistent⟩ | ⟨first, d, rest, error, failed, split, fine, wrong⟩ :=
    ofDefinitions_cases ds
  · have listed := lists.perm_toList consistent
    refine ⟨iff_of_true ⟨set, ok⟩ consistent, ?_⟩
    rw [ok]
    refine ⟨fun d => lists.get?_of_mem, fun opcode => lists.get?_eq_none, ?_, listed,
      set.toList_increasing, fun es same => ?_, set.ofDefinitions_toList⟩
    · exact set.size_eq_length.trans listed.length_eq
    · exact ofDefinitions_of_lists (lists.perm same) (consistent.perm same)
  · have refused : ¬ ∃ set, ofDefinitions ds = .ok set := by
      rintro ⟨set, ok⟩
      cases failed.symm.trans ok
    rw [failed]
    refine ⟨iff_of_false (failed ▸ refused) ?_, first, d, rest, split, fine, wrong⟩
    exact split ▸ wrong.not_consistent

end InstructionSet

end Console6502
