import XAuto.LogHistory
import XAuto.LogQuery

namespace XAuto

namespace LogBuffer

/-- The client loop of the header comment: call again from `next_index` while entries remain.
Each page is kept with the cursor it was requested from. -/
def drain (buf : LogBuffer) (filter : Bytes) (limits : Nat → Nat) :
    Nat → Nat → Nat → Option (List (Nat × Snapshot))
  | 0, _, _ => none
  | fuel + 1, k, since =>
    let snap := buf.getSince since (limits k) filter
    if snap.remaining > 0 then
      (drain buf filter limits fuel (k + 1) snap.nextIndex).map ((since, snap) :: ·)
    else some [(since, snap)]

/-- The matching entries a cursor has not passed. -/
def pending (buf : LogBuffer) (filter : Bytes) (since : Nat) : List Bytes :=
  (buf.unread since).filterMap (keptLines filter)

section Call

variable (buf : LogBuffer) (filter : Bytes) (since limit : Nat)

theorem getSince_unlimited_entries :
    (buf.getSince since 0 filter).entries = buf.pending filter since := by
  rw [getSince_entries, readCount, Paging.filterMap_take_cut_zero, pending]

theorem getSince_unlimited_nextIndex :
    (buf.getSince since 0 filter).nextIndex = buf.baseIndex + buf.entries.length := by
  rw [getSince_nextIndex, readCount, Paging.cut_zero, length_unread]
  omega

theorem pending_split :
    (buf.getSince since limit filter).entries ++
        buf.pending filter (buf.getSince since limit filter).nextIndex =
      buf.pending filter since := by
  rw [getSince_entries, pending, unread_nextIndex, pending]
  exact Paging.filterMap_cut_append _ _ _

theorem getSince_remaining_eq :
    (buf.getSince since limit filter).remaining =
      (buf.pending filter (buf.getSince since limit filter).nextIndex).length := by
  rw [getSince_remaining, pending, unread_nextIndex]

variable {buf filter since limit}

theorem unread_ne_nil_of_remaining (h : 0 < (buf.getSince since limit filter).remaining) :
    buf.unread since ≠ [] := by
  intro hnil
  simp [getSince_remaining, hnil] at h

theorem lt_nextIndex (h : 0 < (buf.getSince since limit filter).remaining) :
    since < (buf.getSince since limit filter).nextIndex := by
  have hne := unread_ne_nil_of_remaining h
  have hpos : 0 < buf.readCount since limit filter := Paging.cut_pos _ hne
  have hlen := List.length_pos_iff.mpr hne
  rw [length_unread] at hlen
  rw [getSince_nextIndex]
  omega

theorem entries_ne_nil (hl : 0 < limit) (h : 0 < (buf.getSince since limit filter).remaining) :
    (buf.getSince since limit filter).entries ≠ [] := by
  rw [getSince_entries]
  apply Paging.page_ne_nil _ hl
  rw [getSince_remaining] at h
  exact List.length_pos_iff.mp h

theorem remaining_lt_pending (hl : 0 < limit)
    (h : 0 < (buf.getSince since limit filter).remaining) :
    (buf.getSince since limit filter).remaining < (buf.pending filter since).length := by
  have hsplit := congrArg List.length (buf.pending_split filter since limit)
  have hpage := List.length_pos_iff.mpr (entries_ne_nil hl h)
  rw [List.length_append] at hsplit
  rw [getSince_remaining_eq]
  omega

end Call

structure Drained (buf : LogBuffer) (filter : Bytes) (since : Nat)
    (pages : List (Nat × Snapshot)) : Prop where
  advances : ∀ page ∈ pages, 0 < page.2.remaining → page.1 < page.2.nextIndex
  decreasing : pages.Pairwise fun p q => q.2.remaining < p.2.remaining
  bounded : ∀ page ∈ pages, 0 < page.2.remaining →
    page.2.remaining < (buf.pending filter since).length
  entries : pages.flatMap (·.2.entries) = buf.pending filter since
  later : ∀ pre page post, pages = pre ++ page :: post →
    page.2.remaining = (post.flatMap (·.2.entries)).length
  final : ∃ page, pages.getLast? = some page ∧ buf.pending filter page.2.nextIndex = [] ∧
    buf.baseIndex ≤ page.2.nextIndex ∧ page.2.nextIndex ≤ buf.baseIndex + buf.entries.length

theorem drained_last {buf : LogBuffer} {filter : Bytes} {since limit : Nat}
    (h : (buf.getSince since limit filter).remaining = 0) :
    Drained buf filter since [(since, buf.getSince since limit filter)] := by
  have hnone : buf.pending filter (buf.getSince since limit filter).nextIndex = [] := by
    rw [getSince_remaining_eq] at h
    exact List.length_eq_zero_iff.mp h
  have hbase : buf.baseIndex ≤ (buf.getSince since limit filter).nextIndex := by
    rw [getSince_nextIndex]
    omega
  refine ⟨by simp [h], by simp, by simp [h], ?_, ?_, _, rfl, hnone, hbase,
    buf.getSince_nextIndex_le _ _ _⟩
  · simpa [hnone] using buf.pending_split filter since limit
  · intro pre page post eq
    cases pre with
    | nil =>
      obtain ⟨rfl, rfl⟩ := List.cons.inj eq
      simpa using h
    | cons p pre => simp at eq

theorem Drained.cons {buf : LogBuffer} {filter : Bytes} {since limit : Nat} (hl : 0 < limit)
    {pages : List (Nat × Snapshot)} (h : 0 < (buf.getSince since limit filter).remaining)
    (rest : Drained buf filter (buf.getSince since limit filter).nextIndex pages) :
    Drained buf filter since ((since, buf.getSince since limit filter) :: pages) := by
  have heq := buf.getSince_remaining_eq filter since limit
  have hlt := remaining_lt_pending hl h
  refine ⟨?_, ?_, ?_, ?_, ?_, ?_⟩
  · intro page hp hr
    rcases List.mem_cons.mp hp with rfl | hp
    · exact lt_nextIndex h
    · exact rest.advances page hp hr
  · refine List.pairwise_cons.mpr ⟨fun q hq => ?_, rest.decreasing⟩
    rcases Nat.eq_zero_or_pos q.2.remaining with hz | hpos
    · exact hz ▸ h
    · exact heq ▸ rest.bounded q hq hpos
  · intro page hp hr
    rcases List.mem_cons.mp hp with rfl | hp
    · exact hlt
    · exact (heq ▸ rest.bounded page hp hr).trans hlt
  · rw [List.flatMap_cons, rest.entries]
    exact buf.pending_split filter since limit
  · intro pre page post eq
    cases pre with
    | nil =>
      obtain ⟨rfl, rfl⟩ := List.cons.inj eq
      rw [rest.entries]
      exact heq
    | cons p pre => exact rest.later pre page post (List.cons.inj eq).2
  · obtain ⟨page, hp, hfinal⟩ := rest.final
    exact ⟨page, by simp [List.getLast?_cons, hp], hfinal⟩

/-- Any fuel beyond the number of pending entries is enough: every call but the last returns one. -/
theorem drain_ends {buf : LogBuffer} {filter : Bytes} {limits : Nat → Nat}
    (hl : ∀ k, 1 ≤ limits k) {n since : Nat} (k : Nat)
    (hn : (buf.pending filter since).length ≤ n) :
    ∃ pages, Drained buf filter since pages ∧
      ∀ fuel, n < fuel → buf.drain filter limits fuel k since = some pages := by
  induction n generalizing k since with
  | zero =>
    have hr : (buf.getSince since (limits k) filter).remaining = 0 := by
      by_contra hne
      have := remaining_lt_pending (hl k) (Nat.pos_of_ne_zero hne)
      omega
    refine ⟨_, drained_last hr, fun fuel hf => ?_⟩
    obtain ⟨m, rfl⟩ : ∃ m, fuel = m + 1 := ⟨fuel - 1, by omega⟩
    simp [drain, hr]
  | succ n ih =>
    by_cases hr : 0 < (buf.getSince since (limits k) filter).remaining
    · have hlt := remaining_lt_pending (hl k) hr
      rw [getSince_remaining_eq] at hlt
      have hnext :
          (buf.pending filter (buf.getSince since (limits k) filter).nextIndex).length ≤ n := by
        omega
      obtain ⟨pages, hp, hd⟩ := ih (k + 1) hnext
      refine ⟨_, hp.cons (hl k) hr, fun fuel hf => ?_⟩
      obtain ⟨m, rfl⟩ : ∃ m, fuel = m + 1 := ⟨fuel - 1, by omega⟩
      simp [drain, hr, hd m (by omega)]
    · refine ⟨_, drained_last (Nat.eq_zero_of_not_pos hr), fun fuel hf => ?_⟩
      obtain ⟨m, rfl⟩ : ∃ m, fuel = m + 1 := ⟨fuel - 1, by omega⟩
      simp [drain, hr]

/-- A drained cursor and the end of the buffer stay equivalent while the log grows. -/
theorem getSince_drained {buf : LogBuffer} {filter : Bytes} {d : Nat}
    (hnone : buf.pending filter d = []) (hb : buf.baseIndex ≤ d)
    (hd : d ≤ buf.baseIndex + buf.entries.length) (msgs : List (Option Bytes)) (limit : Nat) :
    let later := msgs.foldl append buf
    let atEnd := later.getSince (buf.baseIndex + buf.entries.length) limit filter
    let drained := later.getSince d limit filter
    drained.entries = atEnd.entries ∧ drained.remaining = atEnd.remaining ∧
      drained.nextIndex = atEnd.nextIndex := by
  intro later atEnd drained
  obtain ⟨k, hk, he, hbase⟩ := buf.appends_drop msgs
  have hlen : later.entries.length = buf.entries.length + (msgs.filterMap id).length - k := by
    simp [later, he]
  refine later.getSince_skip limit hd (by simp only [later, hbase] at hlen ⊢; omega) ?_
  intro entry hm
  obtain ⟨i, hi⟩ := List.mem_iff_getElem?.mp hm
  rw [List.getElem?_take] at hi
  split at hi
  next hin =>
    -- the entry was already in the buffer when it was drained, at an index not below `d`
    have hold : (buf.unread d)[i + (max d later.baseIndex - d)]? = some entry := by
      rw [unread, List.getElem?_drop] at hi ⊢
      simp only [later, he, hbase] at hi hin ⊢
      rw [List.getElem?_drop, List.getElem?_append_left (by omega)] at hi
      rw [← hi]
      congr 1
      omega
    exact List.filterMap_eq_nil_iff.mp hnone entry (List.mem_of_getElem? hold)
  next => simp at hi

/-- Draining page by page ends, returns what a single unlimited call returns, and leaves a cursor
from which every later poll answers as from that call's `next_index`. -/
theorem drain_complete (buf : LogBuffer) (since : Nat) (filter : Bytes) (limits : Nat → Nat)
    (hl : ∀ k, 1 ≤ limits k) :
    ∃ pages, (∃ fuel, buf.drain filter limits fuel 0 since = some pages) ∧
      (∀ page ∈ pages, 0 < page.2.remaining → page.1 < page.2.nextIndex) ∧
      (pages.Pairwise fun p q => q.2.remaining < p.2.remaining) ∧
      pages.flatMap (·.2.entries) = (buf.getSince since 0 filter).entries ∧
      (∀ pre page post, pages = pre ++ page :: post →
        page.2.remaining = (post.flatMap (·.2.entries)).length) ∧
      ∃ page, pages.getLast? = some page ∧
        ∀ (msgs : List (Option Bytes)) (limit : Nat),
          let later := msgs.foldl append buf
          let single := later.getSince (buf.getSince since 0 filter).nextIndex limit filter
          let drained := later.getSince page.2.nextIndex limit filter
          drained.entries = single.entries ∧ drained.remaining = single.remaining ∧
            drained.nextIndex = single.nextIndex := by
  obtain ⟨pages, hp, hd⟩ := drain_ends hl 0 (le_refl (buf.pending filter since).length)
  obtain ⟨page, hlast, hnone, hb, hle⟩ := hp.final
  refine ⟨pages, ⟨_, hd _ (Nat.lt_succ_self _)⟩, hp.advances, hp.decreasing, ?_, hp.later, page,
    hlast, fun msgs limit => ?_⟩
  · rw [getSince_unlimited_entries]
    exact hp.entries
  · rw [getSince_unlimited_nextIndex]
    exact getSince_drained hnone hb hle msgs limit

theorem drain_complete_two_lines :
    ∃ pages, (∃ fuel, drain ⟨[bytes "a", bytes "b"], 7, 2⟩ [] (fun _ => 1) fuel 0 3 = some pages) ∧
      pages.flatMap (·.2.entries) = [bytes "a", bytes "b"] := by
  obtain ⟨pages, hd, -, -, he, -⟩ :=
    drain_complete ⟨[bytes "a", bytes "b"], 7, 2⟩ 3 [] (fun _ => 1) (fun _ => le_rfl)
  exact ⟨pages, hd, he.trans (by decide)⟩

end LogBuffer

end XAuto
