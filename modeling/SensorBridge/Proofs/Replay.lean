import SensorBridge.Proofs.Accounts

/-!
Replaying the catalog: which pages are asked for, and which data sources are on them. Whoever asks
counts in pages of the size asked for, while the catalog has a largest page of its own.
-/
namespace SensorBridge

open Routine

/-- Whether the call is for a page of the catalog. -/
def Exchange.isPage (x : Exchange) : Bool :=
  match x.call with
  | .enumerate .. => true
  | _ => false

/-- The product of page number and page size, by which the last page is known, has 64 bits. -/
def Exchange.Fits (x : Exchange) : Prop :=
  ∀ page perPage, x.call = .enumerate page perPage → page * perPage < UInt64.size

theorem Exchange.fits_enumerate {page perPage : Nat}
    {reply : Except Fault (Call.enumerate page perPage).Reply} (h : page * perPage < UInt64.size) :
    Exchange.Fits ⟨.enumerate page perPage, reply⟩ := by
  intro _ _ heq
  obtain ⟨rfl, rfl⟩ := Call.enumerate.inj heq
  exact h

theorem Exchange.fits_of_no_page {x : Exchange} (h : x.isPage = false) : x.Fits := by
  intro _ _ heq
  rw [isPage, heq] at h
  cases h

theorem Exchange.Fits.toNat_mul {x : Exchange} {page perPage : Nat} (h : x.Fits)
    (heq : x.call = .enumerate page perPage) :
    (UInt64.ofNat page * UInt64.ofNat perPage).toNat = page * perPage := by
  rw [UInt64.toNat_mul, UInt64.toNat_ofNat', UInt64.toNat_ofNat', ← Nat.mul_mod]
  exact Nat.mod_eq_of_lt (h page perPage heq)

namespace Catalog

variable {c : Catalog} {n k m : Nat}

/-- Every page that is asked for is one of this catalog. -/
def Supplies (c : Catalog) (replies : Replies) : Prop :=
  ∀ (page perPage : Nat) (reply : Except Fault (Except CatalogError (List Source × Nat))),
    replies (.enumerate page perPage) reply → reply = .ok (.ok (c.enumerate page perPage))

/-- How many pages of `n` it takes to come to the end; there is always a first one. -/
def pageCount (c : Catalog) (n : Nat) : Nat :=
  max 1 ((c.entries.length + n - 1) / n)

/-- How many data sources that many pages have room for. -/
def covered (c : Catalog) (n : Nat) : Nat :=
  c.pageCount n * min n maxPerPage

/-- The data sources behind the first `k` pages, up to the end of the next one. -/
def onPage (c : Catalog) (n k : Nat) : List Source :=
  (c.entries.drop (k * min n maxPerPage)).take (min n maxPerPage)

/-- The data sources on the pages that are asked for. -/
def reached (c : Catalog) (n : Nat) : List Source :=
  c.entries.take (c.covered n)

/-- The data sources that no page asked for holds. -/
def skipped (c : Catalog) (n : Nat) : List Source :=
  c.entries.drop (c.covered n)

/-- The call for one page of the catalog. -/
def asking (c : Catalog) (n page : Nat) : Exchange :=
  ⟨.enumerate page n, .ok (.ok (c.enumerate page n))⟩

theorem enumerate_succ (hn : 0 < n) :
    c.enumerate (k + 1) n = (c.onPage n k, c.entries.length) := by
  have hsize : max 1 (min n maxPerPage) = min n maxPerPage := by
    have : 0 < maxPerPage := by decide
    omega
  have hpage : max (k + 1) 1 - 1 = k := by omega
  simp only [enumerate, onPage, hsize, hpage]

theorem onPage_append : c.onPage n k ++ (c.entries.drop ((k + 1) * min n maxPerPage)).take
      (m * min n maxPerPage) =
    (c.entries.drop (k * min n maxPerPage)).take ((m + 1) * min n maxPerPage) := by
  rw [onPage, Nat.succ_mul k, Nat.succ_mul m, Nat.add_comm (m * _), List.take_add, List.drop_drop]

theorem pageCount_le_succ (hn : 0 < n) :
    c.pageCount n ≤ k + 1 ↔ c.entries.length ≤ (k + 1) * n := by
  have hdiv : (c.entries.length + n - 1) / n < k + 2 ↔ c.entries.length + n - 1 < (k + 2) * n :=
    Nat.div_lt_iff_lt_mul hn
  have hmul : (k + 2) * n = (k + 1) * n + n := Nat.succ_mul (k + 1) n
  unfold pageCount
  omega

theorem pageCount_le_size (hn : 0 < n) (h : c.entries.length < UInt64.size) :
    c.pageCount n ≤ UInt64.size := by
  obtain ⟨m, hm⟩ : ∃ m, UInt64.size = m + 1 := ⟨UInt64.size - 1, rfl⟩
  rw [hm, pageCount_le_succ hn, ← hm]
  exact h.le.trans (Nat.le_mul_of_pos_right _ hn)

/-- A page that is asked for is not behind the end, unless there is nothing at all. -/
theorem onPage_ne_nil (hn : 0 < n) (hk : k < c.pageCount n) (hne : c.entries ≠ []) :
    c.onPage n k ≠ [] := by
  have hpos : 0 < c.entries.length := List.length_pos_of_ne_nil hne
  have hsize : 0 < min n maxPerPage := lt_min hn (by decide)
  have hlt : k * min n maxPerPage < c.entries.length := by
    cases k with
    | zero => omega
    | succ k =>
      have hlt : (k + 1) * n < c.entries.length := by
        rw [← not_le, ← pageCount_le_succ hn]
        omega
      exact (Nat.mul_le_mul_left (k + 1) (Nat.min_le_left n maxPerPage)).trans_lt hlt
  apply List.ne_nil_of_length_pos
  rw [onPage, List.length_take, List.length_drop]
  omega

/-- Pages that the catalog does not cut cover all of it. -/
theorem length_le_covered (hn : 0 < n) (h : n ≤ maxPerPage) : c.entries.length ≤ c.covered n := by
  obtain ⟨k, hk⟩ : ∃ k, c.pageCount n = k + 1 :=
    ⟨c.pageCount n - 1, by have : 1 ≤ c.pageCount n := le_max_left _ _; omega⟩
  rw [covered, hk, Nat.min_eq_left h, ← pageCount_le_succ hn, hk]

theorem reached_append_skipped : c.reached n ++ c.skipped n = c.entries :=
  List.take_append_drop _ _

theorem skipped_eq_nil (hn : 0 < n) (h : n ≤ maxPerPage) : c.skipped n = [] :=
  List.drop_eq_nil_of_le (length_le_covered hn h)

theorem reached_eq (hn : 0 < n) (h : n ≤ maxPerPage) : c.reached n = c.entries := by
  rw [← reached_append_skipped (c := c) (n := n), skipped_eq_nil hn h, List.append_nil]

/-- Larger pages than the catalog gives may leave data sources out. -/
theorem covered_eq (h : maxPerPage < n) (hc : c.entries.length ≤ n) : c.covered n = maxPerPage := by
  have hone : c.pageCount n = 1 := by
    have hle : c.pageCount n ≤ 0 + 1 := (pageCount_le_succ (by omega)).mpr (by omega)
    have hge : 1 ≤ c.pageCount n := le_max_left _ _
    omega
  rw [covered, hone, Nat.min_eq_right h.le, Nat.one_mul]

end Catalog

namespace Ledger

open LedgerRuns

variable {replies : Replies} {grace : Nat} {feed : Feed} {g g' : Ledger} {t : List Exchange}
  {x : Exchange}

theorem Subscribing.no_pages {session : SessionId} {topic : String} {qos : Qos}
    {res : Except Fault (Except ConnectorError Unit)}
    (h : Subscribing replies session topic qos t res) (hx : x ∈ t) : x.isPage = false := by
  cases h <;> (rw [List.mem_singleton] at hx; subst hx; rfl)

theorem Registering.no_pages {res : Except Fault (Except ConnectorError Unit)}
    (h : Registering replies grace feed g t res g') (hx : x ∈ t) : x.isPage = false := by
  cases h with
  | refused | counted => cases hx
  | subscribed _ _ _ hsub | unsubscribed _ _ _ hsub => exact hsub.no_pages hx
  | unconnected | faulted =>
    rw [List.mem_singleton] at hx
    subst hx
    rfl
  | opened _ _ _ hsub | dropped _ _ _ hsub =>
    obtain rfl | hx := List.mem_cons.mp hx
    · rfl
    · exact hsub.no_pages hx
  | closed _ _ _ hsub hclosing =>
    obtain rfl | hx := List.mem_cons.mp hx
    · rfl
    · obtain hx | hx := List.mem_append.mp hx
      · exact hsub.no_pages hx
      · cases hclosing
        rw [List.mem_singleton] at hx
        subst hx
        rfl

theorem EnrollingEach.no_pages {sources : List Source} {res : Except Fault Unit}
    (h : EnrollingEach replies grace sources g t res g') (hx : x ∈ t) : x.isPage = false := by
  have hone {id : String} {feed : Feed} {g g' : Ledger} {t : List Exchange}
      {res : Except Fault (Except ConnectorError Unit)}
      (he : Enrolling replies grace id feed g t res g') (hx : x ∈ t) : x.isPage = false := by
    cases he with
    | enrolled hr | postponed hr | faulted hr => exact hr.no_pages hx
  induction h with
  | nil => cases hx
  | unfed _ _ ih => exact ih hx
  | fed _ he _ ih =>
    obtain hx | hx := List.mem_append.mp hx
    · exact hone he hx
    · exact ih hx
  | faulted _ he => exact hone he hx

theorem EnrollingEach.filter_pages {sources : List Source} {res : Except Fault Unit}
    (h : EnrollingEach replies grace sources g t res g') :
    t.filter (·.isPage) = [] ∧ t.filter (!·.isPage) = t := by
  constructor
  · exact List.filter_eq_nil_iff.mpr fun x hx => by simp [h.no_pages hx]
  · exact List.filter_eq_self.mpr fun x hx => by simp [h.no_pages hx]

/-- What comes of asking for the pages from one on and registering the data sources on them. -/
inductive Replaying (replies : Replies) (settings : ConnectorSettings) :
    Nat → Ledger → List Exchange → Except Fault (Except ConnectorError Unit) → Ledger → Prop where
  | spent {page : Nat} {g : Ledger} : Replaying replies settings page g [] (.ok (.ok ())) g
  | unavailable {page : Nat} {g : Ledger} {e : CatalogError} :
      replies (.enumerate page settings.pageSize) (.ok (.error e)) →
      Replaying replies settings page g [⟨.enumerate page settings.pageSize, .ok (.error e)⟩]
        (.ok (.error (.catalog e))) g
  | faulted {page : Nat} {g : Ledger} {f : Fault} :
      replies (.enumerate page settings.pageSize) (.error f) →
      Replaying replies settings page g [⟨.enumerate page settings.pageSize, .error f⟩] (.error f) g
  | empty {page total : Nat} {g : Ledger} :
      replies (.enumerate page settings.pageSize) (.ok (.ok ([], total))) →
      Replaying replies settings page g [⟨.enumerate page settings.pageSize, .ok (.ok ([], total))⟩]
        (.ok (.ok ())) g
  | stuck {page total : Nat} {sources : List Source} {g g' : Ledger} {t : List Exchange} {f : Fault} :
      replies (.enumerate page settings.pageSize) (.ok (.ok (sources, total))) → sources ≠ [] →
      EnrollingEach replies settings.grace sources g t (.error f) g' →
      Replaying replies settings page g
        (⟨.enumerate page settings.pageSize, .ok (.ok (sources, total))⟩ :: t) (.error f) g'
  | last {page total : Nat} {sources : List Source} {g g' : Ledger} {t : List Exchange} :
      replies (.enumerate page settings.pageSize) (.ok (.ok (sources, total))) → sources ≠ [] →
      EnrollingEach replies settings.grace sources g t (.ok ()) g' →
      total ≤ page * settings.pageSize →
      Replaying replies settings page g
        (⟨.enumerate page settings.pageSize, .ok (.ok (sources, total))⟩ :: t) (.ok (.ok ())) g'
  | next {page total : Nat} {sources : List Source} {g g₁ g' : Ledger} {t t' : List Exchange}
      {res : Except Fault (Except ConnectorError Unit)} :
      replies (.enumerate page settings.pageSize) (.ok (.ok (sources, total))) → sources ≠ [] →
      EnrollingEach replies settings.grace sources g t (.ok ()) g₁ →
      page * settings.pageSize < total → Replaying replies settings (page + 1) g₁ t' res g' →
      Replaying replies settings page g
        (⟨.enumerate page settings.pageSize, .ok (.ok (sources, total))⟩ :: (t ++ t')) res g'

/-- What holds of each step of something holds of all of it; a step begins and ends with a ledger of
a kind. -/
structure Stepwise (P : Ledger → Prop) (R : Ledger → List Exchange → Ledger → Prop) : Prop where
  idle {g : Ledger} : P g → R g [] g
  append {g g₁ g' : Ledger} {t t' : List Exchange} : R g t g₁ → R g₁ t' g' → R g (t ++ t') g'
  kept {g g' : Ledger} {t : List Exchange} : R g t g' → P g'

variable {c : Catalog} {settings : ConnectorSettings} {P : Ledger → Prop}
  {R : Ledger → List Exchange → Ledger → Prop}

theorem EnrollingEach.stepwise {sources : List Source} {res : Except Fault Unit}
    (hR : Stepwise P R) (hone : ∀ id feed g t res g', Enrolling replies grace id feed g t res g' →
      P g → R g t g')
    (h : EnrollingEach replies grace sources g t res g') (hg : P g) : R g t g' := by
  induction h with
  | nil => exact hR.idle hg
  | unfed _ _ ih => exact ih hg
  | fed _ h _ ih =>
    have hfirst := hone _ _ _ _ _ _ h hg
    exact hR.append hfirst (ih (hR.kept hfirst))
  | faulted _ h => exact hone _ _ _ _ _ _ h hg

/-- Asking for a page is a step, and so is each registration. -/
theorem Replaying.stepwise {page : Nat} {res : Except Fault (Except ConnectorError Unit)}
    (hR : Stepwise P R)
    (hpage : ∀ g page reply, P g → R g [⟨.enumerate page settings.pageSize, reply⟩] g)
    (hone : ∀ id feed g t res g', Enrolling replies settings.grace id feed g t res g' →
      P g → R g t g')
    (h : Replaying replies settings page g t res g') (hg : P g) : R g t g' := by
  induction h with
  | spent => exact hR.idle hg
  | unavailable | faulted | empty => exact hpage _ _ _ hg
  | stuck _ _ heach | last _ _ heach => exact hR.append (hpage _ _ _ hg) (heach.stepwise hR hone hg)
  | next _ _ heach _ _ ih =>
    have hfirst := heach.stepwise hR hone hg
    exact hR.append (hpage _ _ _ hg) (hR.append hfirst (ih (hR.kept hfirst)))

theorem replaying_of_run {fuel page : Nat} {res : Except Fault (Except ConnectorError Unit)}
    (h : LedgerRuns replies (replayFrom settings fuel page) g t res g') :
    Replaying replies settings page g t res g' := by
  induction fuel generalizing g t page with
  | zero =>
    obtain ⟨rfl, rfl, rfl⟩ := pure_iff.mp h
    exact .spent
  | succ fuel ih =>
    obtain ⟨reply, t₁, g₁, t₂, hcall, hrest, rfl⟩ | ⟨f, hcall, rfl⟩ := bind h
    · obtain ⟨hreply, rfl, rfl⟩ := call hcall
      match reply with
      | .error e =>
        obtain ⟨rfl, rfl, rfl⟩ := pure_iff.mp hrest
        exact .unavailable hreply
      | .ok ([], total) =>
        obtain ⟨rfl, rfl, rfl⟩ := pure_iff.mp hrest
        exact .empty hreply
      | .ok (s :: rest, total) =>
        have hsome : s :: rest ≠ [] := List.cons_ne_nil s rest
        obtain ⟨_, t₃, g₂, t₄, heach, hnext, rfl⟩ | ⟨f, heach, rfl⟩ := bind hrest
        · have heach := enrollingEach_of_run heach
          rw [List.singleton_append]
          split at hnext
          · obtain ⟨rfl, rfl, rfl⟩ := pure_iff.mp hnext
            rw [List.append_nil]
            exact .last hreply hsome heach ‹_›
          · exact .next hreply hsome heach (Nat.lt_of_not_le ‹_›) (ih hnext)
        · exact .stuck hreply hsome (enrollingEach_of_run heach)
    · obtain ⟨hreply, rfl, rfl⟩ := call hcall
      exact .faulted hreply

/-- A page after the first one is asked for only if the pages before it have less room than the total,
so its number times the page size is less than twice the total. It has 64 bits if totals have 63. -/
theorem Replaying.fits {page : Nat} {res : Except Fault (Except ConnectorError Unit)}
    (h : Replaying replies settings page g t res g')
    (htotals : ∀ page sources total,
      replies (.enumerate page settings.pageSize) (.ok (.ok (sources, total))) → total ≤ 2 ^ 63)
    (hpage : 0 < page) (hfirst : page * settings.pageSize < UInt64.size) : ∀ x ∈ t, x.Fits := by
  induction h with
  | spent => exact fun _ hx => (List.not_mem_nil hx).elim
  | unavailable | faulted | empty =>
    exact List.forall_mem_singleton.mpr (Exchange.fits_enumerate hfirst)
  | stuck _ _ heach | last _ _ heach =>
    exact List.forall_mem_cons.mpr ⟨Exchange.fits_enumerate hfirst,
      fun _ hx => Exchange.fits_of_no_page (heach.no_pages hx)⟩
  | @next page total _ _ _ _ _ _ _ hreply _ heach hlt _ ih =>
    have htotal : total ≤ 2 ^ 63 := htotals _ _ _ hreply
    have hone : settings.pageSize ≤ page * settings.pageSize := Nat.le_mul_of_pos_left _ hpage
    have hnext : (page + 1) * settings.pageSize < UInt64.size := by
      have hsize : UInt64.size = 2 ^ 63 + 2 ^ 63 := rfl
      rw [Nat.succ_mul]
      omega
    refine List.forall_mem_cons.mpr ⟨Exchange.fits_enumerate hfirst, fun x hx => ?_⟩
    obtain hx | hx := List.mem_append.mp hx
    · exact Exchange.fits_of_no_page (heach.no_pages hx)
    · exact ih (Nat.succ_pos page) hnext x hx

/-- The product by which the last page is known is the same in words of 64 bits. -/
theorem toNat_product_of_replay {res : Except Fault (Except ConnectorError Unit)}
    (hsize : settings.pageSize < UInt64.size)
    (htotals : ∀ page sources total,
      replies (.enumerate page settings.pageSize) (.ok (.ok (sources, total))) → total ≤ 2 ^ 63)
    (h : LedgerRuns replies (replay settings) g t res g') :
    ∀ x ∈ t, ∀ page perPage, x.call = .enumerate page perPage →
      (UInt64.ofNat page * UInt64.ofNat perPage).toNat = page * perPage := by
  have hfits := (replaying_of_run (holding h)).fits htotals Nat.one_pos (by rwa [Nat.one_mul])
  exact fun x hx page perPage heq => (hfits x hx).toNat_mul heq

/-- One turn of the loop: a page is asked for and its data sources are registered. Then the next
page follows, unless this was the last one by the count of whoever asks. -/
theorem page_of_replayFrom {fuel k : Nat} {res : Except Fault (Except ConnectorError Unit)}
    (hn : 0 < settings.pageSize) (hc : c.Supplies replies) (hr : replies.Faultless)
    (hk : k < c.pageCount settings.pageSize)
    (h : LedgerRuns replies (replayFrom settings (fuel + 1) (k + 1)) g t res g') :
    ∃ t₁ g₁ t₂, t = c.asking settings.pageSize (k + 1) :: (t₁ ++ t₂) ∧
      EnrollingEach replies settings.grace (c.onPage settings.pageSize k) g t₁ (.ok ()) g₁ ∧
      (c.pageCount settings.pageSize = k + 1 ∧ t₂ = [] ∧ res = .ok (.ok ()) ∧ g' = g₁ ∨
        k + 1 < c.pageCount settings.pageSize ∧
        LedgerRuns replies (replayFrom settings fuel (k + 2)) g₁ t₂ res g') := by
  have hlast : c.pageCount settings.pageSize ≤ k + 1 ↔
      c.entries.length ≤ (k + 1) * settings.pageSize := Catalog.pageCount_le_succ hn
  obtain ⟨reply, _, _, t', hcall, hrest, rfl⟩ | ⟨f, hcall, -⟩ := bind h
  · obtain ⟨hreply, rfl, rfl⟩ := call hcall
    obtain rfl := Except.ok.inj (hc _ _ _ hreply)
    rw [Catalog.enumerate_succ hn] at hrest
    dsimp only at hrest
    -- only an empty catalog has an empty page that is asked for
    by_cases hempty : c.onPage settings.pageSize k = []
    · have hnil : c.entries = [] := by
        by_contra hne
        exact Catalog.onPage_ne_nil hn hk hne hempty
      simp only [hempty, List.isEmpty_nil, if_true] at hrest
      obtain ⟨rfl, rfl, rfl⟩ := pure_iff.mp hrest
      rw [hempty]
      have hle := hlast.mpr (by simp [hnil])
      exact ⟨[], g', [], rfl, .nil, .inl ⟨by omega, rfl, rfl, rfl⟩⟩
    · have hsome : (c.onPage settings.pageSize k).isEmpty = false := by simpa using hempty
      rw [hsome, if_neg Bool.false_ne_true] at hrest
      obtain ⟨_, t₁, g₁, t₂, hpage, hnext, rfl⟩ | ⟨f, hpage, -⟩ := bind hrest
      · refine ⟨t₁, g₁, t₂, rfl, enrollingEach_of_run hpage, ?_⟩
        by_cases hend : c.entries.length ≤ (k + 1) * settings.pageSize
        · rw [if_pos hend] at hnext
          obtain ⟨rfl, rfl, rfl⟩ := pure_iff.mp hnext
          have hle := hlast.mpr hend
          exact .inl ⟨by omega, rfl, rfl, rfl⟩
        · rw [if_neg hend] at hnext
          exact .inr ⟨by rwa [← not_le, hlast], hnext⟩
      · exact absurd (enrollingEach_of_run hpage) (EnrollingEach.no_fault hr)
  · exact absurd (call hcall).1 (hr _ _)

/-- From a page on, the pages up to the last one are asked for, each once, and the data sources on
them are registered in their order. -/
theorem enrolling_of_replayFrom {fuel k : Nat} {res : Except Fault (Except ConnectorError Unit)}
    (hn : 0 < settings.pageSize) (hc : c.Supplies replies) (hr : replies.Faultless)
    (hk : k < c.pageCount settings.pageSize) (hfuel : c.pageCount settings.pageSize ≤ k + fuel)
    (h : LedgerRuns replies (replayFrom settings fuel (k + 1)) g t res g') :
    res = .ok (.ok ()) ∧
    EnrollingEach replies settings.grace
      ((c.entries.drop (k * min settings.pageSize Catalog.maxPerPage)).take
        ((c.pageCount settings.pageSize - k) * min settings.pageSize Catalog.maxPerPage))
      g (t.filter (!·.isPage)) (.ok ()) g' ∧
    t.filter (·.isPage) = (List.range' (k + 1) (c.pageCount settings.pageSize - k)).map
      (c.asking settings.pageSize) := by
  induction fuel generalizing g t k with
  | zero => omega
  | succ fuel ih =>
    obtain ⟨t₁, g₁, t₂, rfl, hpage, hnext⟩ := page_of_replayFrom hn hc hr hk h
    obtain ⟨hnone, hall⟩ := hpage.filter_pages
    have hpages : (c.asking settings.pageSize (k + 1) :: (t₁ ++ t₂)).filter (·.isPage) =
        c.asking settings.pageSize (k + 1) :: t₂.filter (·.isPage) := by
      rw [List.filter_cons_of_pos rfl, List.filter_append, hnone, List.nil_append]
    have hcalls : (c.asking settings.pageSize (k + 1) :: (t₁ ++ t₂)).filter (!·.isPage) =
        t₁ ++ t₂.filter (!·.isPage) := by
      rw [List.filter_cons_of_neg (by simp [Catalog.asking, Exchange.isPage]), List.filter_append,
        hall]
    rw [hpages, hcalls]
    obtain ⟨hlast, rfl, rfl, rfl⟩ | ⟨hlt, hnext⟩ := hnext
    · rw [hlast, Nat.add_sub_cancel_left, Nat.one_mul, List.filter_nil, List.append_nil]
      exact ⟨rfl, hpage, rfl⟩
    · obtain ⟨rfl, hrest, hmore⟩ := ih hlt (by omega) hnext
      have hleft : c.pageCount settings.pageSize - k =
          c.pageCount settings.pageSize - (k + 1) + 1 := by omega
      rw [hleft, ← Catalog.onPage_append, hmore]
      exact ⟨rfl, hpage.append hrest, rfl⟩

/-- What replaying a catalog does: it asks for each page once and registers, in the order of the
ids, the data sources on them. -/
structure Replayed (replies : Replies) (settings : ConnectorSettings) (c : Catalog)
    (t : List Exchange) (g : Ledger) : Prop where
  pages : t.filter (·.isPage) =
    (List.range' 1 (c.pageCount settings.pageSize)).map (c.asking settings.pageSize)
  enrolled : EnrollingEach replies settings.grace (c.reached settings.pageSize) {}
    (t.filter (!·.isPage)) (.ok ()) g
  accounts : g.Accounts (c.reached settings.pageSize)
  busy : g.Busy

theorem pageSize_pos (hs : settings.fault? = none) : 0 < settings.pageSize := by
  by_contra hzero
  simp [ConnectorSettings.fault?, Nat.eq_zero_of_not_pos hzero] at hs

theorem replayed_of_run {res : Except Fault (Except ConnectorError Unit)}
    (hs : settings.fault? = none) (hc : c.Reachable) (hsup : c.Supplies replies)
    (hr : replies.Faultless) (h : LedgerRuns replies (replay settings) {} t res g') :
    res = .ok (.ok ()) ∧ Replayed replies settings c t g' := by
  have hn := pageSize_pos hs
  have hfirst : 0 < c.pageCount settings.pageSize := lt_of_lt_of_le Nat.one_pos (le_max_left _ _)
  have hfuel : c.pageCount settings.pageSize ≤ 0 + maxPages := by
    rw [Nat.zero_add]
    exact Catalog.pageCount_le_size hn hc.length_lt
  obtain ⟨hres, henrolled, hpages⟩ :=
    enrolling_of_replayFrom hn hsup hr hfirst hfuel (holding h)
  rw [Nat.zero_mul, List.drop_zero, Nat.sub_zero] at henrolled
  have hids : ((c.reached settings.pageSize ++ []).map Source.id).Nodup := by
    rw [List.append_nil]
    exact hc.wellFormed.ids_nodup.sublist ((List.take_sublist _ _).map Source.id)
  obtain ⟨haccounts, hbusy⟩ := EnrollingEach.accounts henrolled accounts_empty (by simp [Busy]) hids
  rw [List.append_nil] at haccounts
  exact ⟨hres, hpages, henrolled, haccounts, hbusy⟩

/-- Data sources that are not on the pages asked for neither wait nor are counted. -/
theorem Replayed.skipped (h : Replayed replies settings c t g) (hc : c.Reachable) :
    (g.Accounts c.entries ↔ ∀ s ∈ c.skipped settings.pageSize, s.feed = none) ∧
      ∀ s ∈ c.skipped settings.pageSize, g.isPending s.id = false := by
  have hids : ((c.reached settings.pageSize ++ c.skipped settings.pageSize).map Source.id).Nodup := by
    rw [Catalog.reached_append_skipped]
    exact hc.wellFormed.ids_nodup
  constructor
  · rw [← h.accounts.append_iff hids, Catalog.reached_append_skipped]
  · intro s hs
    refine h.accounts.isPending_eq_false fun hid => ?_
    rw [List.map_append] at hids
    exact (List.nodup_append.mp hids).2.2 _ hid _ (List.mem_map_of_mem hs) rfl

end Ledger

namespace Catalog

/-- Everything goes well while the catalog stands. -/
def granting (c : Catalog) : (call : Call) → Except Fault call.Reply
  | .connect _ => .ok (.ok 0)
  | .subscribe .. => .ok (.ok ())
  | .unsubscribe .. => .ok (.ok ())
  | .disconnect .. => .ok (.ok ())
  | .enumerate page perPage => .ok (.ok (c.enumerate page perPage))
  | .lookup resource => .ok (.ok (c.lookup resource))
  | .submit _ => .ok (.ok ())

theorem faultless_granting (c : Catalog) : (Replies.only c.granting).Faultless := by
  intro call f h
  cases call <;> cases h

theorem supplies_granting (c : Catalog) : c.Supplies (.only c.granting) :=
  fun _ _ _ h => h

end Catalog

namespace Ledger

open LedgerRuns

variable {replies : Replies} {c : Catalog} {settings : ConnectorSettings}

/-- Replaying comes to an end and reports success. It attempts every data source that is fed exactly
once, in the order of the ids, if and only if none of them is behind the pages it asks for. Nothing
is behind them when the catalog does not cut the pages. -/
theorem replay_complete_iff (hs : settings.fault? = none) (hc : c.Reachable)
    (hsup : c.Supplies replies) (hr : replies.Faultless) (hreplies : ∀ call, ∃ x, replies call x) :
    (∃ t res g', LedgerRuns replies (replay settings) {} t res g') ∧
    (settings.pageSize ≤ Catalog.maxPerPage → c.skipped settings.pageSize = []) ∧
    ∀ t res g', LedgerRuns replies (replay settings) {} t res g' →
      res = .ok (.ok ()) ∧ Replayed replies settings c t g' ∧
      (EnrollingEach replies settings.grace c.entries {} (t.filter (!·.isPage)) (.ok ()) g' ∧
          g'.Accounts c.entries ↔
        ∀ s ∈ c.skipped settings.pageSize, s.feed = none) ∧
      ∀ s ∈ c.skipped settings.pageSize, g'.isPending s.id = false := by
  refine ⟨exists_run hreplies _ _, Catalog.skipped_eq_nil (pageSize_pos hs), ?_⟩
  intro t res g' h
  obtain ⟨hres, hreplayed⟩ := replayed_of_run hs hc hsup hr h
  obtain ⟨hiff, hpending⟩ := hreplayed.skipped hc
  refine ⟨hres, hreplayed, ⟨fun hall => hiff.mp hall.2, fun hunfed => ⟨?_, hiff.mpr hunfed⟩⟩, hpending⟩
  rw [← Catalog.reached_append_skipped (c := c) (n := settings.pageSize)]
  exact hreplayed.enrolled.append_unfed hunfed

theorem replay_complete_crowd : ∃ t g', LedgerRuns (.only (Catalog.crowd 3).granting) (replay {}) {} t
    (.ok (.ok ())) g' ∧ g'.Accounts (Catalog.crowd 3).entries := by
  have hs : ({} : ConnectorSettings).fault? = none := rfl
  obtain ⟨⟨t, res, g', h⟩, hall, hrun⟩ := replay_complete_iff hs
    (Catalog.crowd_reachable (n := 3) (by decide)) (Catalog.supplies_granting _)
    (Catalog.faultless_granting _) (Replies.exists_only _)
  obtain ⟨rfl, -, hiff, -⟩ := hrun t res g' h
  refine ⟨t, g', h, (hiff.mpr ?_).2⟩
  rw [hall (by decide)]
  simp

/-- A page of 2000 is cut to 1000, but whoever asked believes to have come to the end. -/
theorem replay_leaves_one_out :
    ({ pageSize := 2000 } : ConnectorSettings).fault? = none ∧ (Catalog.crowd 1001).Reachable ∧
    ∃ t g', LedgerRuns (.only (Catalog.crowd 1001).granting) (replay { pageSize := 2000 }) {} t
        (.ok (.ok ())) g' ∧
      Catalog.crowdMember 1000 ∈ (Catalog.crowd 1001).entries ∧
      g'.isPending (Catalog.crowdMember 1000).id = false ∧
      g'.count "mqtt://a" "t" + 1 = g'.demand (Catalog.crowd 1001).entries "mqtt://a" "t" := by
  have hreach : (Catalog.crowd 1001).Reachable := Catalog.crowd_reachable (by decide)
  have hlast : (Catalog.crowd 1001).entries =
      (Catalog.crowd 1000).entries ++ [Catalog.crowdMember 1000] := Catalog.crowd_succ 1000
  obtain ⟨t, res, g', h⟩ := exists_run (Replies.exists_only (Catalog.crowd 1001).granting)
    (replay { pageSize := 2000 }) {}
  obtain ⟨rfl, hreplayed⟩ := replayed_of_run rfl hreach (Catalog.supplies_granting _)
    (Catalog.faultless_granting _) h
  have hcovered : (Catalog.crowd 1001).covered 2000 = (Catalog.crowd 1000).entries.length := by
    rw [Catalog.covered_eq (by decide) (by rw [Catalog.length_crowd]; decide), Catalog.length_crowd]
    rfl
  have hskipped : (Catalog.crowd 1001).skipped 2000 = [Catalog.crowdMember 1000] := by
    rw [Catalog.skipped, hcovered, hlast, List.drop_left]
  have hreached : (Catalog.crowd 1001).reached 2000 = (Catalog.crowd 1000).entries := by
    rw [Catalog.reached, hcovered, hlast, List.take_left]
  have hpending : g'.isPending (Catalog.crowdMember 1000).id = false :=
    (hreplayed.skipped hreach).2 _ (by rw [hskipped]; exact List.mem_singleton_self _)
  refine ⟨rfl, hreach, t, g', h, ?_, hpending, ?_⟩
  · rw [hlast]
    exact List.mem_append_right _ (List.mem_singleton_self _)
  · have hcount := hreplayed.accounts.counted "mqtt://a" "t"
    rw [hreached] at hcount
    rw [hcount, demand, demand, hlast, List.countP_append, List.countP_singleton, hpending]
    rfl

end Ledger

end SensorBridge
