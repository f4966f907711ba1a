import XAuto.LogQuery

namespace XAuto

namespace LogBuffer

variable (buf : LogBuffer) (sinceIndex limit : Nat) (filter : Bytes)

/-- What the filter leaves of the entries from a cursor on, with the position of each. -/
def matching : List (Nat × Bytes) :=
  buf.entries.zipIdx.filterMap fun entry =>
    if sinceIndex - buf.baseIndex ≤ entry.2 then (keptLines filter entry.1).map (entry.2, ·)
    else none

/-- The matches that a call hands out. -/
def returned : List (Nat × Bytes) :=
  if limit = 0 then buf.matching sinceIndex filter
  else (buf.matching sinceIndex filter).take limit

/-- The answer that `get_since` is to give, with no loop in it. -/
def specified : Snapshot where
  entries := (buf.returned sinceIndex limit filter).map Prod.snd
  nextIndex :=
    if h : 0 < limit ∧ limit ≤ (buf.matching sinceIndex filter).length then
      buf.baseIndex + 1 + ((buf.matching sinceIndex filter).get ⟨limit - 1, by omega⟩).1
    else buf.baseIndex + buf.entries.length
  remaining :=
    (buf.matching sinceIndex filter).length - (buf.returned sinceIndex limit filter).length
  evicted := buf.baseIndex - sinceIndex

theorem matching_eq_hits :
    buf.matching sinceIndex filter =
      Paging.hits (keptLines filter) (sinceIndex - buf.baseIndex) (buf.unread sinceIndex) := by
  have from_start := Paging.hits_from (keptLines filter) (sinceIndex - buf.baseIndex) 0 buf.entries
  rwa [Nat.max_zero, Nat.sub_zero] at from_start

theorem matching_map_snd :
    (buf.matching sinceIndex filter).map Prod.snd =
      (buf.unread sinceIndex).filterMap (keptLines filter) := by
  rw [matching_eq_hits, Paging.hits_map_snd]

theorem matching_length :
    (buf.matching sinceIndex filter).length =
      ((buf.unread sinceIndex).filterMap (keptLines filter)).length := by
  rw [← matching_map_snd, List.length_map]

/-- The entries a call reads hold the matches it is to hand out. -/
theorem read_eq_returned :
    ((buf.unread sinceIndex).take (buf.readCount sinceIndex limit filter)).filterMap
        (keptLines filter) = (buf.returned sinceIndex limit filter).map Prod.snd := by
  unfold returned readCount
  by_cases hn : limit = 0
  · subst limit
    rw [if_pos rfl, matching_map_snd, Paging.filterMap_take_cut_zero]
  · have hpos : 0 < limit := by omega
    rw [if_neg hn, List.map_take, matching_map_snd, Paging.filterMap_take_cut _ hpos]

theorem remaining_eq_specified :
    (buf.getSince sinceIndex limit filter).remaining =
      (buf.specified sinceIndex limit filter).remaining := by
  have parts := congrArg List.length
    (Paging.filterMap_cut_append (keptLines filter) limit (buf.unread sinceIndex))
  have handed := congrArg List.length (buf.read_eq_returned sinceIndex limit filter)
  have total := buf.matching_length sinceIndex filter
  rw [List.length_append] at parts
  rw [List.length_map] at handed
  rw [getSince_remaining]
  show _ = (buf.matching sinceIndex filter).length - (buf.returned sinceIndex limit filter).length
  unfold readCount at handed ⊢
  omega

theorem nextIndex_eq_specified :
    (buf.getSince sinceIndex limit filter).nextIndex =
      (buf.specified sinceIndex limit filter).nextIndex := by
  have hlen := buf.length_unread sinceIndex
  have total := buf.matching_length sinceIndex filter
  rw [getSince_nextIndex]
  unfold specified readCount
  dsimp only
  by_cases h : 0 < limit ∧ limit ≤ (buf.matching sinceIndex filter).length
  · rw [dif_pos h]
    have hlast : (buf.matching sinceIndex filter)[limit - 1]? =
        some ((buf.matching sinceIndex filter).get ⟨limit - 1, by omega⟩) :=
      List.getElem?_eq_getElem _
    generalize (buf.matching sinceIndex filter).get _ = last at hlast
    rw [matching_eq_hits] at hlast
    have hcut := Paging.cut_of_hit (keptLines filter) h.1 hlast
    have matched : (buf.unread sinceIndex).length ≠ 0 := by
      intro hnil
      rw [List.length_eq_zero_iff] at hnil
      rw [hnil] at total
      have none : (buf.matching sinceIndex filter).length = 0 := total
      omega
    omega
  · rw [dif_neg h]
    have all : Paging.cut (keptLines filter) limit (buf.unread sinceIndex) =
        (buf.unread sinceIndex).length := Paging.cut_eq_length (keptLines filter) (by omega)
    omega

/-- `get_since` gives the specified answer, whatever the cursor, the limit and the filter. -/
theorem getSince_eq_specified :
    buf.getSince sinceIndex limit filter = buf.specified sinceIndex limit filter := by
  have hentries : (buf.getSince sinceIndex limit filter).entries =
      (buf.specified sinceIndex limit filter).entries := by
    rw [getSince_entries, read_eq_returned]
    rfl
  have hnext := buf.nextIndex_eq_specified sinceIndex limit filter
  have hremaining := buf.remaining_eq_specified sinceIndex limit filter
  have hevicted : (buf.getSince sinceIndex limit filter).evicted =
      (buf.specified sinceIndex limit filter).evicted :=
    buf.getSince_evicted sinceIndex limit filter
  cases hs : buf.getSince sinceIndex limit filter with
  | mk entries nextIndex remaining evicted =>
    rw [hs] at hentries hnext hremaining hevicted
    subst hentries hnext hremaining hevicted
    rfl

end LogBuffer

end XAuto
