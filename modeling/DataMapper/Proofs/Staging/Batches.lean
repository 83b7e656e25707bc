import DataMapper.Proofs.Region.Batches
import DataMapper.Staging.UnitOfWork
/-!
# Batches of units of work

What the views of a unit of work make of the keys that regions hold when they are published one
after another. No batch changes whether a region takes another one, so that all of them can be
judged in the store that the first one meets.
-/

namespace DataMapper

namespace Staged

variable {v : Staged} {store : RegionStore} {r : RegionRef} {key : CacheKey}

/-- The batch of the view reaches a region: its own region takes it and shares its storage. -/
def Reaches (v : Staged) (store : RegionStore) (r : RegionRef) : Prop :=
  store.Accepts v.region v.batch ∧ store.Shares v.region r

theorem Reaches.of_sameLayout {store' : RegionStore} (h : store.SameLayout store')
    (hreaches : v.Reaches store r) : v.Reaches store' r :=
  ⟨h.accepts.1 hreaches.1, h.shares.1 hreaches.2⟩

theorem publish_of_isEmpty (h : v.batch.isEmpty = true) : v.publish store = (.ok (), store) :=
  if_pos h

theorem publish_of_not_isEmpty (h : v.batch.isEmpty = false) :
    v.publish store = store.apply v.region v.batch := by
  unfold publish
  rw [h, if_neg Bool.false_ne_true]

theorem sameLayout_publish (v : Staged) (store : RegionStore) :
    (v.publish store).2.SameLayout store := by
  unfold publish
  split_ifs
  · exact .refl store
  · exact store.sameLayout_apply v.region v.batch

theorem contains_publish (h : ((v.publish store).2.storage r).contains key = true) :
    (v.Reaches store r ∧ v.batch.Puts key) ∨
      ((store.storage r).contains key = true ∧ (v.Reaches store r → v.clearOnCommit = false)) := by
  cases hempty : v.batch.isEmpty with
  | true =>
    rw [publish_of_isEmpty hempty] at h
    have hclear : v.batch.clear = false := by
      rw [CommitBatch.isEmpty, Bool.and_eq_true] at hempty
      simpa using hempty.1
    exact .inr ⟨h, fun _ => hclear⟩
  | false =>
    rw [publish_of_not_isEmpty hempty] at h
    rcases RegionStore.contains_apply h with ⟨haccepts, hshares, hputs⟩ | ⟨hkey, hclear⟩
    · exact .inl ⟨⟨haccepts, hshares⟩, hputs⟩
    · exact .inr ⟨hkey, fun hreaches => hclear hreaches.1 hreaches.2⟩

end Staged

namespace UnitOfWork

variable {views : List (String × Staged)} {store : RegionStore} {r : RegionRef} {key : CacheKey}

theorem snd_publishAll_cons (e : String × Staged) (rest : List (String × Staged))
    (store : RegionStore) :
    (publishAll (e :: rest) store).2 = (publishAll rest (e.2.publish store).2).2 := by
  rw [publishAll]
  generalize e.2.publish store = published
  obtain ⟨result, store'⟩ := published
  cases result <;> rfl

theorem sameLayout_publishAll (views : List (String × Staged)) (store : RegionStore) :
    (publishAll views store).2.SameLayout store := by
  induction views generalizing store with
  | nil => exact .refl store
  | cons e rest ih =>
    rw [snd_publishAll_cons]
    exact (ih (e.2.publish store).2).trans (e.2.sameLayout_publish store)

/-- What a region holds after all views were published was put by a batch that reached it, or held
before and not cleared by such a batch. -/
theorem contains_publishAll (h : ((publishAll views store).2.storage r).contains key = true) :
    (∃ e ∈ views, e.2.Reaches store r ∧ e.2.batch.Puts key) ∨
      ((store.storage r).contains key = true ∧
        ∀ e ∈ views, e.2.Reaches store r → e.2.clearOnCommit = false) := by
  induction views generalizing store with
  | nil => exact .inr ⟨h, fun e he => nomatch he⟩
  | cons e rest ih =>
    have hlayout := e.2.sameLayout_publish store
    rw [snd_publishAll_cons] at h
    rcases ih h with ⟨e', he', hreaches, hputs⟩ | ⟨hkey, hrest⟩
    · exact .inl ⟨e', List.mem_cons_of_mem e he', hreaches.of_sameLayout hlayout, hputs⟩
    · rcases Staged.contains_publish hkey with ⟨hreaches, hputs⟩ | ⟨hkey, hfirst⟩
      · exact .inl ⟨e, List.mem_cons_self, hreaches, hputs⟩
      · refine .inr ⟨hkey, fun e' he' hreaches => ?_⟩
        rcases List.mem_cons.1 he' with rfl | he'
        · exact hfirst hreaches
        · exact hrest e' he' (hreaches.of_sameLayout hlayout.symm)

/-- If nothing fails, every region has taken its batch. -/
theorem accepts_of_publishAll (h : (publishAll views store).1 = []) :
    ∀ e ∈ views, e.2.batch.isEmpty = false → store.Accepts e.2.region e.2.batch := by
  induction views generalizing store with
  | nil => exact fun e he => nomatch he
  | cons e rest ih =>
    have hlayout := e.2.sameLayout_publish store
    have hsplit : (e.2.publish store).1 = .ok () ∧
        (publishAll rest (e.2.publish store).2).1 = [] := by
      rw [publishAll] at h
      generalize e.2.publish store = published at h
      obtain ⟨result, store'⟩ := published
      cases result with
      | error e => cases h
      | ok _ => exact ⟨rfl, h⟩
    intro e' he' hempty
    rcases List.mem_cons.1 he' with rfl | he'
    · rw [Staged.publish_of_not_isEmpty hempty] at hsplit
      exact hsplit.1
    · exact hlayout.accepts.1 (ih hsplit.2 e' he' hempty)

/-- A commit attempts every view, and forgets what was staged whatever the regions answer. -/
theorem commitAll_snd (u : UnitOfWork) (store : RegionStore) :
    (u.commitAll store).2 = (u.rollbackAll, (publishAll u.views.entries store).2) := by
  unfold commitAll
  split
  · rename_i hall
    rw [hall]
  · rename_i hall
    rw [hall]

theorem publishAll_of_commitAll {u : UnitOfWork} (h : (u.commitAll store).1 = .ok ()) :
    (publishAll u.views.entries store).1 = [] := by
  unfold commitAll at h
  split at h
  · rename_i hall
    rw [hall]
  · cases h

/-! ## Two stores side by side -/

variable {R : RegionStore → RegionStore → Prop} {store' : RegionStore}

/-- Views that related stores answer alike, and keep related, can be published one after another. -/
theorem publishAll_related (h : R store store')
    (hpublish : ∀ e ∈ views, ∀ s t, R s t →
      (e.2.publish s).1 = (e.2.publish t).1 ∧ R (e.2.publish s).2 (e.2.publish t).2) :
    (publishAll views store).1 = (publishAll views store').1 ∧
      R (publishAll views store).2 (publishAll views store').2 := by
  induction views generalizing store store' with
  | nil => exact ⟨rfl, h⟩
  | cons e rest ih =>
    obtain ⟨hfirst, hrest⟩ := List.forall_mem_cons.1 hpublish
    obtain ⟨hresult, hafter⟩ := hfirst store store' h
    obtain ⟨hfailures, hstores⟩ := ih hafter hrest
    refine ⟨?_, ?_⟩
    · unfold publishAll
      generalize e.2.publish store = p at hresult hfailures
      generalize e.2.publish store' = q at hresult hfailures
      obtain ⟨result, after⟩ := p
      obtain ⟨result', after'⟩ := q
      obtain rfl : result = result' := hresult
      cases result with
      | ok _ => exact hfailures
      | error e =>
        dsimp only at hfailures ⊢
        rw [hfailures]
    · rw [snd_publishAll_cons, snd_publishAll_cons]
      exact hstores

theorem commitAll_related (u : UnitOfWork) (h : R store store')
    (hpublish : ∀ e ∈ u.views.entries, ∀ s t, R s t →
      (e.2.publish s).1 = (e.2.publish t).1 ∧ R (e.2.publish s).2 (e.2.publish t).2) :
    (u.commitAll store).1 = (u.commitAll store').1 ∧
      (u.commitAll store).2.1 = (u.commitAll store').2.1 ∧
      R (u.commitAll store).2.2 (u.commitAll store').2.2 := by
  obtain ⟨hfailures, hstores⟩ := publishAll_related h hpublish
  have hresult : (u.commitAll store).1 = (u.commitAll store').1 := by
    unfold commitAll
    generalize publishAll u.views.entries store = p at hfailures
    generalize publishAll u.views.entries store' = q at hfailures
    obtain ⟨failures, after⟩ := p
    obtain ⟨failures', after'⟩ := q
    obtain rfl : failures = failures' := hfailures
    cases failures <;> rfl
  rw [commitAll_snd, commitAll_snd]
  exact ⟨hresult, rfl, hstores⟩

end UnitOfWork

end DataMapper
