import DataMapper.Mapper.Interface
import Mathlib.Data.List.Pairwise
import Mathlib.Tactic.SplitIfs
/-!
# Well-formed interfaces

What a mapper interface has to be, said of the interface as a whole and without an order of checks.
The validation of interfaces accepts exactly these, and a method of such an interface is found under
its name.
-/

namespace DataMapper

namespace MethodSignature

/-- No two parameters are of that kind. -/
def AtMostOne (m : MethodSignature) (kind : ParamKind) : Prop :=
  m.params.Pairwise fun p q => ¬ (p.kind = kind ∧ q.kind = kind)

structure WellFormed (m : MethodSignature) : Prop where
  /-- The proxy answers to these names itself. -/
  unreserved : m.name ≠ "to_string" ∧ m.name ≠ "hash_code" ∧ m.name ≠ "equals"
  oneBounds : m.AtMostOne .rowBounds
  oneHandler : m.AtMostOne .resultHandler
  /-- What a handler receives is not returned as well. -/
  handled : ∀ p ∈ m.params, p.kind = .resultHandler → m.returns = .void

end MethodSignature

structure MapperInterface.WellFormed (i : MapperInterface) : Prop where
  named : i.name ≠ ""
  distinct : i.methods.Pairwise fun m m' => m.name ≠ m'.name
  methods : ∀ m ∈ i.methods, m.WellFormed

/-! ## Validation -/

theorem countP_le_one_iff {α : Type} (p : α → Bool) (l : List α) :
    l.countP p ≤ 1 ↔ l.Pairwise fun a b => ¬ (p a = true ∧ p b = true) := by
  induction l with
  | nil => simp
  | cons a rest ih =>
    rw [List.pairwise_cons, List.countP_cons, ← ih]
    cases ha : p a with
    | false => simp
    | true =>
      have hrest : rest.countP p = 0 ↔ ∀ b ∈ rest, ¬ p b = true := List.countP_eq_zero
      simp only [if_true, true_and]
      rw [← hrest]
      omega

namespace MethodSignature

variable (m : MethodSignature)

theorem countOf_le_one_iff (kind : ParamKind) : m.countOf kind ≤ 1 ↔ m.AtMostOne kind := by
  unfold countOf AtMostOne
  rw [countP_le_one_iff]
  simp only [beq_iff_eq]

theorem isSome_resultHandlerIndex? :
    m.resultHandlerIndex?.isSome = true ↔ ∃ p ∈ m.params, p.kind = .resultHandler := by
  unfold resultHandlerIndex? indexOf?
  rw [List.findIdx?_isSome, List.any_eq_true]
  simp only [beq_iff_eq]

end MethodSignature

namespace MapperInterface

/-- The checks of one method, in their order, find a fault unless there is none to be found. -/
theorem methodFault?_eq_none_iff (earlier : List String) (m : MethodSignature) :
    methodFault? earlier m = none ↔ m.WellFormed ∧ m.name ∉ earlier := by
  have hreserved : objectMethods.contains m.name = false ↔
      m.name ≠ "to_string" ∧ m.name ≠ "hash_code" ∧ m.name ≠ "equals" := by
    simp [objectMethods]
  have hhandled : (m.resultHandlerIndex?.isSome && m.returns != .void) = false ↔
      ∀ p ∈ m.params, p.kind = .resultHandler → m.returns = .void := by
    have hindex := m.isSome_resultHandlerIndex?
    rw [Bool.and_eq_false_imp, hindex]
    simp
  have hbounds := m.countOf_le_one_iff .rowBounds
  have hhandler := m.countOf_le_one_iff .resultHandler
  rw [← Nat.not_lt] at hbounds hhandler
  unfold methodFault?
  constructor
  · intro h
    split_ifs at h with h1 h2 h3 h4 h5
    refine ⟨⟨hreserved.1 (by simpa using h1), hbounds.1 h3, hhandler.1 h4,
      hhandled.1 (by simpa using h5)⟩, by simpa using h2⟩
  · rintro ⟨hm, hnew⟩
    rw [if_neg (by simpa using hreserved.2 hm.unreserved), if_neg (by simpa using hnew),
      if_neg (hbounds.2 hm.oneBounds), if_neg (hhandler.2 hm.oneHandler),
      if_neg (by simpa using hhandled.2 hm.handled)]

theorem validateMethods_eq_ok_iff (interface : String) (earlier : List String)
    (methods : List MethodSignature) :
    validateMethods interface earlier methods = .ok () ↔
      (∀ m ∈ methods, m.WellFormed ∧ m.name ∉ earlier) ∧
        methods.Pairwise fun m m' => m.name ≠ m'.name := by
  induction methods generalizing earlier with
  | nil => simp [validateMethods]
  | cons m rest ih =>
    have hfault := methodFault?_eq_none_iff earlier m
    unfold validateMethods
    cases h : methodFault? earlier m with
    | some reason =>
      rw [h] at hfault
      simp only [reduceCtorEq, false_iff] at hfault
      simp only [reduceCtorEq, false_iff]
      rintro ⟨hall, -⟩
      exact hfault (hall m List.mem_cons_self)
    | none =>
      rw [h] at hfault
      have hm := hfault.1 rfl
      dsimp only
      rw [ih, List.forall_mem_cons, List.pairwise_cons]
      constructor
      · rintro ⟨hall, hrest⟩
        refine ⟨⟨hm, fun m' hm' => ⟨(hall m' hm').1, ?_⟩⟩, fun m' hm' => ?_, hrest⟩
        · exact fun hmem => (hall m' hm').2 (List.mem_cons_of_mem _ hmem)
        · exact fun heq => (hall m' hm').2 (heq ▸ List.mem_cons_self)
      · rintro ⟨⟨-, hall⟩, hfirst, hrest⟩
        refine ⟨fun m' hm' => ⟨(hall m' hm').1, fun hmem => ?_⟩, hrest⟩
        rcases List.mem_cons.1 hmem with heq | hmem
        · exact hfirst m' hm' heq.symm
        · exact (hall m' hm').2 hmem

/-- Validation accepts the well-formed interfaces and no others. -/
theorem validate_eq_ok_iff (i : MapperInterface) : i.validate = .ok () ↔ i.WellFormed := by
  unfold validate
  split_ifs with hname
  · simp only [false_iff]
    exact fun h => h.named hname
  · rw [validateMethods_eq_ok_iff]
    constructor
    · rintro ⟨hall, hdistinct⟩
      exact ⟨hname, hdistinct, fun m hm => (hall m hm).1⟩
    · intro h
      exact ⟨fun m hm => ⟨h.methods m hm, List.not_mem_nil⟩, h.distinct⟩

/-! ## Methods by name -/

/-- A well-formed interface tells its methods apart by their names. -/
theorem WellFormed.findMethod?_eq {i : MapperInterface} (h : i.WellFormed) {m : MethodSignature}
    (hm : m ∈ i.methods) : i.findMethod? m.name = some m := by
  have hdistinct := h.distinct
  unfold findMethod?
  generalize i.methods = methods at hm hdistinct
  induction methods with
  | nil => cases hm
  | cons first rest ih =>
    rw [List.pairwise_cons] at hdistinct
    rcases List.mem_cons.1 hm with rfl | hrest
    · simp
    · have hne : first.name ≠ m.name := hdistinct.1 m hrest
      rw [List.find?_cons_of_neg (by simpa using hne)]
      exact ih hrest hdistinct.2

end MapperInterface

end DataMapper
