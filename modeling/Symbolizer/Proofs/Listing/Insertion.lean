import Symbolizer.Proofs.Listing

/-!
# A line put into a listing

A line that is no header changes nothing, wherever it is put into a listing. A header has a reach in
the listing: the addresses from its own up to the next higher header (`Header.reach`). Put into the
listing it changes no name beyond its reach, and within it none either if a header with the same
address is listed behind it (`SymbolTable.nameAt?_ofLines_insert`). What owns an address is the
nearest header, so all that has to be seen is whether the new header takes that part
(`nearest_insert_self`) or leaves it to the one that had it (`Nearest.insert`).
-/

namespace Symbolizer

/-- The addresses for which a header matters among others: from its own up to the next higher one,
or to the top if there is none. -/
def Header.reach (h : Header) (hs : List Header) : Extent where
  name := h.name
  start := h.address
  stop := ((hs.map (·.address)).filter (h.address < ·)).min?

/-- Within the reach of a header no other one is higher than it. -/
theorem Header.mem_reach_iff {h : Header} {hs : List Header} {a : Address} :
    a ∈ h.reach hs ↔
      h.address ≤ a ∧ ∀ k ∈ hs, k.address ≤ a → k.address ≤ h.address := by
  have habove {b : Address} : b ∈ (hs.map (·.address)).filter (h.address < ·) ↔
      ∃ k ∈ hs, k.address = b ∧ h.address < b := by
    simp only [List.mem_filter, List.mem_map, decide_eq_true_eq]
    exact ⟨fun ⟨⟨k, hk, hb⟩, hlt⟩ => ⟨k, hk, hb, hlt⟩, fun ⟨k, hk, hb, hlt⟩ => ⟨⟨k, hk, hb⟩, hlt⟩⟩
  rw [Extent.mem_def]
  refine and_congr_right fun _ => ⟨fun hstop k hk hka => ?_, fun hmax stop hstop => ?_⟩
  · refine UInt64.not_lt.1 fun hlt => ?_
    have hne : (hs.map (·.address)).filter (h.address < ·) ≠ [] :=
      List.ne_nil_of_mem (habove.2 ⟨k, hk, rfl, hlt⟩)
    obtain ⟨stop, hmin⟩ := Option.ne_none_iff_exists'.1 (mt List.min?_eq_none_iff.1 hne)
    have hle := (List.min?_eq_some_iff.1 hmin).2 _ (habove.2 ⟨k, hk, rfl, hlt⟩)
    exact UInt64.not_lt.2 (UInt64.le_trans hle hka) (hstop stop hmin)
  · obtain ⟨k, hk, rfl, hlt⟩ := habove.1 (List.min?_eq_some_iff.1 hstop).1
    exact UInt64.not_le.1 fun hka => UInt64.not_lt.2 (hmax k hk hka) hlt

/-! ## The nearest header -/

variable {before behind : List Header} {h k : Header} {a : Address}

theorem Nearest.mem {hs : List Header} (hk : Nearest hs a k) : k ∈ hs := by
  obtain ⟨front, back, rfl, -⟩ := hk
  exact List.mem_append_right front List.mem_cons_self

theorem Nearest.le {hs : List Header} (hk : Nearest hs a k) : k.address ≤ a := by
  obtain ⟨-, -, -, hle, -⟩ := hk
  exact hle

theorem Nearest.address_le {hs : List Header} (hk : Nearest hs a k) {l : Header} (hl : l ∈ hs)
    (hla : l.address ≤ a) : l.address ≤ k.address := by
  obtain ⟨front, back, rfl, -, hfront, hback⟩ := hk
  rcases List.mem_append.1 hl with hl | hl
  · exact hfront l hl hla
  · rcases List.mem_cons.1 hl with rfl | hl
    · exact UInt64.le_refl _
    · exact UInt64.le_of_lt (hback l hl hla)

/-- A header stays the nearest one when another is put in that is above the address, or below the
nearest, or level with it and followed by one that is level too. -/
theorem Nearest.insert (hk : Nearest (before ++ behind) a k)
    (hpassed : h.address ≤ a → h.address < k.address ∨
      h.address = k.address ∧ ∃ l ∈ behind, l.address = h.address) :
    Nearest (before ++ h :: behind) a k := by
  obtain ⟨front, back, hlist, hle, hfront, hback⟩ := hk
  have hnot_above (hha : h.address ≤ a) : h.address ≤ k.address := by
    rcases hpassed hha with hlt | ⟨heq, -⟩
    · exact UInt64.le_of_lt hlt
    · exact heq ▸ UInt64.le_refl _
  rcases List.append_eq_append_iff.1 hlist with ⟨x, rfl, rfl⟩ | ⟨x, rfl, hx⟩
  · refine ⟨before ++ h :: x, back, by simp, hle, fun l hl => ?_, hback⟩
    rcases List.mem_append.1 hl with hl | hl
    · exact hfront l (List.mem_append_left x hl)
    · rcases List.mem_cons.1 hl with rfl | hl
      · exact hnot_above
      · exact hfront l (List.mem_append_right before hl)
  · cases x with
    | nil =>
      obtain rfl : k :: back = behind := hx
      refine ⟨front ++ [h], back, by simp, hle, fun l hl => ?_, hback⟩
      rcases List.mem_append.1 hl with hl | hl
      · exact hfront l hl
      · exact List.mem_singleton.1 hl ▸ hnot_above
    | cons y x =>
      obtain ⟨rfl, rfl⟩ := List.cons.inj hx
      refine ⟨front, x ++ h :: behind, by simp, hle, hfront, fun l hl hla => ?_⟩
      rcases List.mem_append.1 hl with hl | hl
      · exact hback l (List.mem_append_left behind hl) hla
      · rcases List.mem_cons.1 hl with rfl | hl
        · -- A level header behind both would have been nearer than `k`.
          refine (hpassed hla).resolve_right fun ⟨heq, m, hm, hml⟩ => ?_
          have hlt := hback m (List.mem_append_right x hm) (hml ▸ hla)
          exact UInt64.lt_irrefl _ (heq ▸ hml ▸ hlt)
        · exact hback l (List.mem_append_right x hl) hla

/-- A header is the nearest one within its reach, if no level one is listed behind it. -/
theorem nearest_insert_self (ha : a ∈ h.reach (before ++ behind))
    (hlast : ∀ k ∈ behind, k.address ≠ h.address) : Nearest (before ++ h :: behind) a h := by
  obtain ⟨hle, hmax⟩ := Header.mem_reach_iff.1 ha
  refine ⟨before, behind, rfl, hle, fun k hk => hmax k (List.mem_append_left behind hk),
    fun k hk hka => ?_⟩
  exact UInt64.lt_of_le_of_ne (hmax k (List.mem_append_right before hk) hka) (hlast k hk)

/-- The header that was the nearest one stays it beyond the reach of a header that is put in, and
where a level one is listed behind that. -/
theorem Nearest.insert_of_not (hk : Nearest (before ++ behind) a k)
    (hnot : ¬ (a ∈ h.reach (before ++ behind) ∧ ∀ l ∈ behind, l.address ≠ h.address)) :
    Nearest (before ++ h :: behind) a k := by
  refine hk.insert fun hha => ?_
  by_cases ha : a ∈ h.reach (before ++ behind)
  · obtain ⟨l, hl, hlevel⟩ : ∃ l ∈ behind, l.address = h.address := by
      simpa using not_and.1 hnot ha
    have hkh : k.address ≤ h.address := (Header.mem_reach_iff.1 ha).2 k hk.mem hk.le
    have hhk : h.address ≤ k.address :=
      hlevel ▸ hk.address_le (List.mem_append_right before hl) (hlevel ▸ hha)
    exact .inr ⟨UInt64.le_antisymm hhk hkh, l, hl, hlevel⟩
  · obtain ⟨m, hm, hma, hhm⟩ : ∃ m ∈ before ++ behind, m.address ≤ a ∧ h.address < m.address := by
      simpa [Header.mem_reach_iff, hha] using ha
    exact .inl (UInt64.lt_of_lt_of_le hhm (hk.address_le hm hma))

/-! ## Names -/

namespace SymbolTable

theorem nameAt?_of_nearest {hs : List Header} (hk : Nearest hs a k) :
    (ofHeaders hs).nameAt? a = some k.name :=
  nameAt?_ofHeaders_eq_some_iff.2 ⟨k, hk, rfl⟩

/-- A header that is put in gives its name to its reach, unless a level one is listed behind it; all
other addresses keep theirs. -/
theorem nameAt?_ofHeaders_insert (before behind : List Header) (h : Header) (a : Address) :
    (ofHeaders (before ++ h :: behind)).nameAt? a =
      if a ∈ h.reach (before ++ behind) ∧ ∀ k ∈ behind, k.address ≠ h.address then some h.name
      else (ofHeaders (before ++ behind)).nameAt? a := by
  split
  · next hself => exact nameAt?_of_nearest (nearest_insert_self hself.1 hself.2)
  · next hnot =>
    rcases find?_ofHeaders (before ++ behind) a with ⟨habove, -⟩ | ⟨k, -, hk, -⟩
    · -- Below all other headers an address is in the reach of `h`, unless it is below `h` too.
      have hlt : a < h.address := by
        refine UInt64.not_le.1 fun hle => hnot
          ⟨Header.mem_reach_iff.2 ⟨hle, fun k hk hka => ?_⟩, ?_⟩
        · exact absurd hka (UInt64.not_le.2 (habove k hk))
        · intro k hk hlevel
          exact UInt64.not_le.2 (habove k (List.mem_append_right before hk)) (hlevel ▸ hle)
      rw [nameAt?_ofHeaders_eq_none_iff.2 habove, nameAt?_ofHeaders_eq_none_iff]
      intro k hk
      rcases List.mem_append.1 hk with hk | hk
      · exact habove k (List.mem_append_left behind hk)
      · rcases List.mem_cons.1 hk with rfl | hk
        · exact hlt
        · exact habove k (List.mem_append_right before hk)
    · rw [nameAt?_of_nearest (hk.insert_of_not hnot), nameAt?_of_nearest hk]

/-- A line has an effect on its reach only, wherever it is put into a listing. If it is no header it
changes no extent. If it is one, it gives its name to the addresses from its own up to the next
higher one of the listing, provided that no header with its address is listed behind it; otherwise,
and at all other addresses, there is the same name as without it, or none. -/
theorem nameAt?_ofLines_insert (before behind : List String) (line : String) :
    (Header.parse? line = none →
      Layout.ofLines (before ++ line :: behind) = Layout.ofLines (before ++ behind)) ∧
    ∀ h, Header.parse? line = some h → ∀ a,
      (ofLines (before ++ line :: behind)).nameAt? a =
        if a ∈ h.reach ((before ++ behind).filterMap Header.parse?) ∧
            ∀ k ∈ behind.filterMap Header.parse?, k.address ≠ h.address
        then some h.name
        else (ofLines (before ++ behind)).nameAt? a := by
  refine ⟨fun hnone => ?_, fun h hparse a => ?_⟩
  · rw [Layout.ofLines, Layout.ofLines, List.filterMap_append, List.filterMap_cons_none hnone,
      ← List.filterMap_append]
  · simp only [ofLines, List.filterMap_append, List.filterMap_cons_some hparse]
    exact nameAt?_ofHeaders_insert _ _ h a

/-- The lines of a listing before a place and behind it. Two functions have one address. -/
def splitListing : List String × List String where
  fst := ["10 <old>:", " nop"]
  snd := ["20 <f>:", "10 <new>:"]

/-- At that place another function at their address is without effect, and so is a line that is no
header. One in between takes what is behind it up to the next function, and one at the top takes the
highest address. -/
theorem nameAt?_ofLines_insert_splitListing :
    (∀ a, (ofLines (splitListing.1 ++ "10 <late>:" :: splitListing.2)).nameAt? a =
        (ofLines (splitListing.1 ++ splitListing.2)).nameAt? a) ∧
      Layout.ofLines (splitListing.1 ++ "10 <late>" :: splitListing.2) =
        Layout.ofLines (splitListing.1 ++ splitListing.2) ∧
      (ofLines (splitListing.1 ++ "18 <g>:" :: splitListing.2)).nameAt? 0x1f = some "g" ∧
      (ofLines (splitListing.1 ++ "18 <g>:" :: splitListing.2)).nameAt? 0x20 =
        (ofLines (splitListing.1 ++ splitListing.2)).nameAt? 0x20 ∧
      (ofLines (splitListing.1 ++ "FFFFFFFFFFFFFFFF <top>:" :: splitListing.2)).nameAt?
        0xffffffffffffffff = some "top" := by
  have hlate : Header.parse? "10 <late>:" = some ⟨0x10, "late"⟩ := by decide
  have hg : Header.parse? "18 <g>:" = some ⟨0x18, "g"⟩ := by decide
  have htop : Header.parse? "FFFFFFFFFFFFFFFF <top>:" = some ⟨0xffffffffffffffff, "top"⟩ := by
    decide
  have hnone : Header.parse? "10 <late>" = none := by decide
  have insert := nameAt?_ofLines_insert splitListing.1 splitListing.2
  refine ⟨fun a => ?_, (insert _).1 hnone, ?_, ?_, ?_⟩
  · rw [(insert _).2 _ hlate, if_neg fun hself => hself.2 ⟨0x10, "new"⟩ (by decide) rfl]
  · rw [(insert _).2 _ hg, if_pos (by decide)]
  · rw [(insert _).2 _ hg, if_neg (by decide)]
  · rw [(insert _).2 _ htop, if_pos (by decide)]

end SymbolTable

end Symbolizer
