import SensorBridge.Mqtt.Options
import SensorBridge.Proofs.UrlText

/-!
The name under which a client speaks to a broker. It is written into the url of a feed as it is, so
that it comes back unchanged exactly if a setting can be put behind the url and nothing in the stem
of the name means something else in a query.
-/
namespace SensorBridge

namespace Url

/-- The url with one setting more. -/
def named (u : Url) (id : String) : Url :=
  { u with query := u.query ++ [("client_id", id)] }

/-- Settings that are added to enough others are one setting more exactly if they are that setting
and the others are those of the url. -/
theorem eq_named_iff {u v : Url} {id : String} {settings added : List (String × String)}
    (hlength : u.query.length ≤ settings.length) (hadded : 0 < added.length) :
    { v with query := settings ++ added } = u.named id ↔
      added = [("client_id", id)] ∧ { v with query := settings } = u := by
  constructor
  · intro h
    have hquery := congrArg Url.query h
    have hone := congrArg List.length hquery
    simp only [named, List.length_append, List.length_singleton] at hone
    obtain ⟨hsame, hname⟩ := List.append_inj hquery (by omega)
    refine ⟨hname, ?_⟩
    have hu := congrArg (fun w : Url => { w with query := u.query }) h
    rw [hsame]
    exact hu
  · rintro ⟨rfl, rfl⟩
    rfl

end Url

namespace Mqtt.Options

open Url (IsPlain IsUnique jointOf bind_eq_ok bind_of_ok)

variable {url : String} {u : Url} {settings : BrokerSettings} {unique name : String} {o : Options}

/-- How a url goes on with a setting. -/
def joint (url : String) : String :=
  String.singleton (jointOf url.toList)

theorem withClientId_eq (url id : String) :
    withClientId url id = url ++ (joint url ++ ("client_id=" ++ id)) := by
  unfold withClientId joint jointOf
  have hand : "&client_id=" = String.singleton '&' ++ "client_id=" := by decide
  have hquestion : "?client_id=" = String.singleton '?' ++ "client_id=" := by decide
  by_cases h : '?' ∈ url.toList
  · rw [if_pos (List.contains_iff_mem.mpr h), if_pos h, hand]
    simp only [String.append_assoc]
  · rw [if_neg (fun h' => h (List.contains_iff_mem.mp h')), if_neg h, hquestion]
    simp only [String.append_assoc]

/-- A url behind which a setting can be put: it has no fragment, and it is read in the same way when
it goes on. -/
structure Extensible (url : String) : Prop where
  unfragmented : '#' ∉ url.toList
  settled : Url.parse (url ++ joint url) = Url.parse url

/-! ### Options -/

open Url (named)

theorem get?_named {id other : String} (h : other ≠ "client_id") :
    (u.named id).query.get? other = u.query.get? other := by
  have hne : ("client_id" == other) = false := beq_eq_false_iff_ne.mpr h.symm
  simp only [Url.named, Url.Query.get?, List.reverse_append, List.reverse_singleton,
    List.singleton_append, List.find?_cons, hne]

theorem get?_named_self {id : String} : (u.named id).query.get? "client_id" = some id := by
  simp [Url.named, Url.Query.get?]

theorem unknown?_named {id : String} :
    (u.named id).query.unknown? known = u.query.unknown? known := by
  have hknown : (!known.contains "client_id") = false := by decide
  simp only [Url.named, Url.Query.unknown?, List.find?_append, List.find?_cons, hknown,
    List.find?_nil, Option.or_none]

/-- Another name for a client. -/
def rename (id : String) (o : Options) : Options :=
  { o with clientId := id }

theorem setKeepAlive_rename {id : String} {n : Nat} :
    setKeepAlive n (rename id o) = (setKeepAlive n o).map (rename id) := by
  unfold setKeepAlive
  split_ifs <;> rfl

theorem setInflight_rename {id : String} {n : Nat} :
    setInflight n (rename id o) = (setInflight n o).map (rename id) := by
  unfold setInflight
  split_ifs <;> rfl

/-- A client with a name can leave a session behind if one without can. -/
theorem setCleanSession_rename {id : String} {clean : Bool} {o' : Options} (hid : id ≠ "")
    (h : setCleanSession clean o = .ok o') :
    setCleanSession clean (rename id o) = .ok (rename id o') := by
  unfold setCleanSession at h ⊢
  split_ifs at h with hclean
  · cases h
    rw [if_neg]
    · rfl
    · simp [rename, hid]

theorem setIf_rename {α : Type} {id : String} {value : Option α} {o' : Options}
    {set : α → Options → Except OptionFault Options}
    (hset : ∀ a, set a o = .ok o' → set a (rename id o) = .ok (rename id o'))
    (h : setIf value set o = .ok o') : setIf value set (rename id o) = .ok (rename id o') := by
  cases value with
  | none =>
    cases h
    rfl
  | some a => exact hset a h

/-- What is taken over without a check: the user, the sizes of packets, which count only together,
and how fast requests are sent. -/
def adjust (user : Option Credentials) (incoming outgoing capacity batch throttle : Option Nat)
    (o : Options) : Options :=
  let o := { o with credentials := user }
  let o := match incoming, outgoing with
    | some i, some u => { o with maxIncoming := i, maxOutgoing := u }
    | _, _ => o
  { o with
    requestCapacity := capacity.getD o.requestCapacity
    maxRequestBatch := batch.getD o.maxRequestBatch
    throttle := throttle.getD o.throttle }

theorem adjust_rename {id : String} {user : Option Credentials}
    {incoming outgoing capacity batch throttle : Option Nat} :
    adjust user incoming outgoing capacity batch throttle (rename id o) =
      rename id (adjust user incoming outgoing capacity batch throttle o) := by
  cases incoming <;> cases outgoing <;> rfl

theorem ofUrl_of_lookup {usual : Nat} {clientId : String}
    (hscheme : schemes.lookup u.scheme = some usual)
    (hid : u.query.get? "client_id" = some clientId) : ofUrl u = (do
      let keepAlive ← number? u.query "keep_alive_secs" 64 .keepAlive
      let o ← setIf keepAlive (fun n => setKeepAlive (n * 1000))
        { clientId, host := u.host, portNumber := u.portNumber.getD usual }
      let clean ← flag? u.query "clean_session" .cleanSession
      let o ← setIf clean setCleanSession o
      let incoming ← number? u.query "max_incoming_packet_size_bytes" 64 .maxIncomingPacketSize
      let outgoing ← number? u.query "max_outgoing_packet_size_bytes" 64 .maxOutgoingPacketSize
      let capacity ← number? u.query "request_channel_capacity_num" 64 .requestChannelCapacity
      let batch ← number? u.query "max_request_batch_num" 64 .maxRequestBatch
      let throttle ← number? u.query "pending_throttle_usecs" 64 .pendingThrottle
      let inflight ← number? u.query "inflight_num" 16 .inflight
      let o ← setIf inflight setInflight
        (adjust (userOf u) incoming outgoing capacity batch throttle o)
      match u.query.unknown? known with
      | some name => throw (.url (.unknown name))
      | none => return o) := by
  unfold ofUrl
  rw [hscheme]
  simp only [hid]
  rfl

theorem ofUrl_named {id : String} (hid : id ≠ "") (h : ofUrl (u.named name) = .ok o) :
    ofUrl (u.named id) = .ok (rename id o) := by
  have hnumber : ∀ {id other : String} {bits : Nat} {fault : UrlFault}, other ≠ "client_id" →
      number? (u.named id).query other bits fault = number? u.query other bits fault := by
    intro id other bits fault hother
    rw [number?, number?, get?_named hother]
  have hflag : ∀ {id other : String} {fault : UrlFault}, other ≠ "client_id" →
      flag? (u.named id).query other fault = flag? u.query other fault := by
    intro id other fault hother
    rw [flag?, flag?, get?_named hother]
  cases hscheme : schemes.lookup u.scheme with
  | none =>
    unfold ofUrl at h
    simp only [Url.named, hscheme] at h
    cases h
  | some usual =>
    have hscheme' : ∀ id, schemes.lookup (u.named id).scheme = some usual := fun _ => hscheme
    rw [ofUrl_of_lookup (hscheme' _) get?_named_self] at h ⊢
    simp (disch := decide) only [hnumber, hflag, unknown?_named] at h ⊢
    obtain ⟨keepAlive, hkeepAlive, h⟩ := bind_eq_ok h
    obtain ⟨o₁, hset, h⟩ := bind_eq_ok h
    obtain ⟨clean, hclean, h⟩ := bind_eq_ok h
    obtain ⟨o₂, hset', h⟩ := bind_eq_ok h
    obtain ⟨incoming, hincoming, h⟩ := bind_eq_ok h
    obtain ⟨outgoing, houtgoing, h⟩ := bind_eq_ok h
    obtain ⟨capacity, hcapacity, h⟩ := bind_eq_ok h
    obtain ⟨batch, hbatch, h⟩ := bind_eq_ok h
    obtain ⟨throttle, hthrottle, h⟩ := bind_eq_ok h
    obtain ⟨inflight, hinflight, h⟩ := bind_eq_ok h
    obtain ⟨o₃, hset'', h⟩ := bind_eq_ok h
    have h₁ : setIf keepAlive (fun n => setKeepAlive (n * 1000)) (rename id
        { clientId := name, host := u.host, portNumber := u.portNumber.getD usual }) =
        .ok (rename id o₁) := by
      refine setIf_rename (fun n hn => ?_) hset
      rw [setKeepAlive_rename, hn]
      rfl
    have h₂ : setIf clean setCleanSession (rename id o₁) = .ok (rename id o₂) :=
      setIf_rename (fun _ hset => setCleanSession_rename hid hset) hset'
    have h₃ : setIf inflight setInflight (adjust (userOf u) incoming outgoing capacity batch
        throttle (rename id o₂)) = .ok (rename id o₃) := by
      rw [adjust_rename]
      refine setIf_rename (fun n hn => ?_) hset''
      rw [setInflight_rename, hn]
      rfl
    refine bind_of_ok hkeepAlive (bind_of_ok h₁ (bind_of_ok hclean (bind_of_ok h₂
      (bind_of_ok hincoming (bind_of_ok houtgoing (bind_of_ok hcapacity (bind_of_ok hbatch
        (bind_of_ok hthrottle (bind_of_ok hinflight (bind_of_ok h₃ ?_))))))))))
    cases hunknown : u.query.unknown? known with
    | some name =>
      rw [hunknown] at h
      cases h
    | none =>
      rw [hunknown] at h
      obtain rfl := Except.ok.inj h
      rfl

theorem isWeb_of_ofUrl (h : ofUrl (u.named name) = .ok o) : Url.isWeb u.scheme = false := by
  cases hscheme : schemes.lookup u.scheme with
  | none =>
    unfold ofUrl at h
    simp only [Url.named, hscheme] at h
    cases h
  | some usual =>
    obtain ⟨before, after, hmem, -⟩ := List.lookup_eq_some_iff.mp hscheme
    have hin : (u.scheme, usual) ∈ schemes := by
      rw [hmem]
      exact List.mem_append_right _ List.mem_cons_self
    simp only [schemes, List.mem_cons, Prod.mk.injEq, List.not_mem_nil, or_false] at hin
    obtain ⟨heq, -⟩ | ⟨heq, -⟩ | ⟨heq, -⟩ | ⟨heq, -⟩ := hin <;> rw [heq] <;> decide

/-! ### The name in the url -/

open Url (isBreak isEdge isEdge_jointOf queryOf readFront Parts)

theorem isEdge_of_mem_unique (h : IsUnique unique.toList) {c : Char} (hc : c ∈ unique.toList) :
    isEdge c = false := by
  obtain hdigit | rfl := h.digits c hc
  · have hrange := Url.toNat_of_hexDigit? hdigit
    rw [isEdge, decide_eq_false_iff_not]
    omega
  · rfl

theorem uniqueName_eq : uniqueName settings unique =
    String.ofList (settings.clientIdStem.toList ++ '-' :: unique.toList) := by
  rw [← String.toList_inj, String.toList_ofList, uniqueName, String.toList_append,
    String.toList_append, List.append_assoc]
  rfl

/-- What is put behind a url. -/
theorem toList_setting : (joint url ++ ("client_id=" ++ uniqueName settings unique)).toList =
    jointOf url.toList :: (Url.Query.clientIdKey ++
      (settings.clientIdStem.toList ++ '-' :: unique.toList)) := by
  have hname : (uniqueName settings unique).toList =
      settings.clientIdStem.toList ++ '-' :: unique.toList := by
    rw [uniqueName_eq, String.toList_ofList]
  rw [joint, String.toList_append, String.toList_singleton, String.toList_append, hname]
  rfl

theorem getLast?_setting (url : String) (settings : BrokerSettings) (h : IsUnique unique.toList) :
    ∃ last, isEdge last = false ∧
    (joint url ++ ("client_id=" ++ uniqueName settings unique)).toList.getLast? = some last := by
  obtain ⟨c, hc, -⟩ := h.nonempty
  have hne : unique.toList ≠ [] := List.ne_nil_of_mem hc
  have hsplit : (joint url ++ ("client_id=" ++ uniqueName settings unique)).toList =
      (jointOf url.toList :: (Url.Query.clientIdKey ++ (settings.clientIdStem.toList ++ ['-']))) ++
        unique.toList := by
    rw [toList_setting]
    simp only [List.cons_append, List.append_assoc, List.nil_append]
  refine ⟨unique.toList.getLast hne, isEdge_of_mem_unique h (List.getLast_mem hne), ?_⟩
  rw [hsplit, List.getLast?_append, List.getLast?_eq_some_getLast hne]
  rfl

/-- What is read of it. -/
theorem filter_setting (h : IsUnique unique.toList) :
    (joint url ++ ("client_id=" ++ uniqueName settings unique)).toList.filter (!isBreak ·) =
      jointOf url.toList :: (Url.Query.clientIdKey ++
        (settings.clientIdStem.toList.filter (!isBreak ·) ++ '-' :: unique.toList)) := by
  have hkeep : ∀ {c : Char}, isEdge c = false → (!isBreak c) = true := by
    intro c hc
    rw [Url.isBreak_of_not_isEdge hc]
    rfl
  have hkey : Url.Query.clientIdKey.filter (!isBreak ·) = Url.Query.clientIdKey := by decide
  have hrest : unique.toList.filter (!isBreak ·) = unique.toList :=
    List.filter_eq_self.mpr fun c hc => hkeep (isEdge_of_mem_unique h hc)
  rw [toList_setting, List.filter_cons, if_pos (hkeep isEdge_jointOf), List.filter_append,
    List.filter_append, List.filter_cons, if_pos (hkeep rfl), hkey, hrest]

section Parts

variable {scheme : String} {rest padding : List Char} {v : Url}

theorem isWeb_of_parts (hparts : Parts url u scheme rest padding v)
    (ho : ofUrl (u.named name) = .ok o) : Url.isWeb scheme = false := by
  have hweb := isWeb_of_ofUrl ho
  rw [hparts.whole] at hweb
  rw [← Url.scheme_readFront hparts.front]
  exact hweb

theorem jointOf_rest (hparts : Parts url u scheme rest padding v) :
    jointOf url.toList = jointOf rest := by
  rw [jointOf, jointOf, if_congr (hparts.marks '?' (.inl rfl)) rfl rfl]

theorem parse_joint (hparts : Parts url u scheme rest padding v) :
    Url.parse (url ++ joint url) = (readFront scheme (rest ++ padding ++ [jointOf rest])).map
      fun v => { v with query := queryOf (rest ++ padding ++ [jointOf rest]) } := by
  have hlast : (joint url).toList.getLast? = some (jointOf rest) := by
    rw [joint, String.toList_singleton, jointOf_rest hparts]
    rfl
  have hread : (joint url).toList.filter (!isBreak ·) = [jointOf rest] := by
    rw [joint, String.toList_singleton, jointOf_rest hparts, List.filter_cons,
      Url.isBreak_of_not_isEdge isEdge_jointOf]
    rfl
  rw [hparts.further _ _ hlast isEdge_jointOf, hread]

/-- The front of a url does not depend on the name that is put behind it. -/
theorem parse_withClientId (settings : BrokerSettings)
    (hparts : Parts url u scheme rest padding v) (hplain : Url.isWeb scheme = false)
    (hunique : IsUnique unique.toList) :
    Url.parse (withClientId url (uniqueName settings unique)) =
      (readFront scheme (rest ++ padding ++ [jointOf rest])).map fun v =>
        { v with query := queryOf (rest ++ padding ++ jointOf rest :: (Url.Query.clientIdKey ++
          (settings.clientIdStem.toList.filter (!isBreak ·) ++ '-' :: unique.toList))) } := by
  have hquestion : '?' ∈ rest ++ padding ++ [jointOf rest] := by
    unfold jointOf
    split_ifs with h
    · exact List.mem_append_left _ (List.mem_append_left _ h)
    · exact List.mem_append_right _ List.mem_cons_self
  obtain ⟨last, hedge, hlast⟩ := getLast?_setting url settings hunique
  rw [withClientId_eq, hparts.further _ _ hlast hedge, filter_setting hunique,
    jointOf_rest hparts]
  rw [List.append_cons, Url.readFront_append_question hplain hquestion]

/-- A fragment swallows the name. -/
theorem parse_withClientId_ne_of_hash (settings : BrokerSettings)
    (hparts : Parts url u scheme rest padding v) (hplain : Url.isWeb scheme = false)
    (hunique : IsUnique unique.toList) (hhash : '#' ∈ url.toList) :
    Url.parse (withClientId url (uniqueName settings unique)) ≠ .ok (u.named name) := by
  intro h
  rw [parse_withClientId settings hparts hplain hunique, List.append_assoc,
    Url.queryOf_append_of_hash ((hparts.marks '#' (.inr rfl)).mp hhash)] at h
  cases hread : readFront scheme (rest ++ padding ++ [jointOf rest]) with
  | error e =>
    rw [hread] at h
    cases h
  | ok v' =>
    rw [hread] at h
    have hquery := congrArg (fun u => u.query.length) (Except.ok.inj h)
    simp [hparts.whole, Url.named] at hquery

end Parts

theorem parse_withClientId_iff (hurl : Url.parse url = .ok u)
    (ho : ofUrl (u.named name) = .ok o) (hunique : IsUnique unique.toList) :
    Url.parse (withClientId url (uniqueName settings unique)) =
        .ok (u.named (uniqueName settings unique)) ↔
      IsPlain settings.clientIdStem.toList ∧ Extensible url := by
  obtain ⟨scheme, rest, padding, v, hparts⟩ := Url.exists_parts hurl
  have hplain := isWeb_of_parts hparts ho
  by_cases hhash : '#' ∈ url.toList
  · exact iff_of_false (parse_withClientId_ne_of_hash settings hparts hplain hunique hhash)
      fun h => h.2.unfragmented hhash
  have hrest : '#' ∉ rest := fun h => hhash ((hparts.marks '#' (.inr rfl)).mpr h)
  have hsettled : Extensible url ↔ Url.parse (url ++ joint url) = .ok u :=
    ⟨fun h => h.settled.trans hurl, fun h => ⟨hhash, h.trans hurl.symm⟩⟩
  obtain ⟨hjoined, hlength, -⟩ := Url.queryOf_joint (Url.Query.clientIdKey ++
    (settings.clientIdStem.toList.filter (!isBreak ·) ++ '-' :: unique.toList)) hrest hparts.blank
  rw [hsettled, parse_joint hparts, parse_withClientId settings hparts hplain hunique, hjoined]
  cases readFront scheme (rest ++ padding ++ [jointOf rest]) with
  | error e => exact iff_of_false (by rintro ⟨⟩) (by rintro ⟨-, ⟨⟩⟩)
  | ok v' =>
    have hquery : u.query = queryOf rest := by rw [hparts.whole]
    rw [← hquery] at hlength
    rw [← Url.parse_name_iff hunique, ← uniqueName_eq]
    simpa only [Except.map, Except.ok.injEq] using
      Url.eq_named_iff hlength (Url.length_parse_clientIdKey _)

/-- A url that names nobody and no host: a user and a host that are both empty. -/
def IsBare (url : String) : Prop :=
  ∃ scheme, Url.scheme? (Url.trimmed url) = some (scheme, "//@".toList)

theorem padding_eq_nil {scheme : String} {rest padding : List Char} {v : Url} {last : Char}
    (hparts : Parts url u scheme rest padding v) (hend : url.toList.getLast? = some last)
    (hlast : isEdge last = false) : padding = [] := by
  obtain ⟨before, hbefore⟩ := List.getLast?_eq_some_iff.mp hend
  have hopened : ∃ front, Url.opened url = front ++ [last] := by
    have hdrop : [last].dropWhile isEdge = [last] :=
      List.dropWhile_cons_of_neg (by rw [hlast]; exact Bool.false_ne_true)
    have hkeep : [last].filter (!isBreak ·) = [last] := by
      rw [List.filter_cons, Url.isBreak_of_not_isEdge hlast]
      rfl
    rw [Url.opened, hbefore, List.dropWhile_append, hdrop]
    split_ifs
    · exact ⟨[], hkeep⟩
    · exact ⟨_, by rw [List.filter_append, hkeep]⟩
  obtain ⟨front, hfront⟩ := hopened
  rw [hparts.opened] at hfront
  obtain hnil | ⟨padding', c, rfl⟩ := List.eq_nil_or_concat padding
  · exact hnil
  · rw [List.concat_eq_append, ← List.append_assoc] at hfront
    have hc := (List.append_inj' hfront rfl).2
    have hblank := hparts.blank c (by simp)
    rw [(List.cons.inj hc).1, hlast] at hblank
    cases hblank

/-- A setting can be put behind a url that does not end in a blank, unless it has a fragment or
names nobody. -/
theorem extensible_iff {last : Char} (hurl : Url.parse url = .ok u)
    (ho : ofUrl (u.named name) = .ok o) (hend : url.toList.getLast? = some last)
    (hlast : isEdge last = false) : Extensible url ↔ '#' ∉ url.toList ∧ ¬ IsBare url := by
  obtain ⟨scheme, rest, padding, v, hparts⟩ := Url.exists_parts hurl
  obtain rfl := padding_eq_nil hparts hend hlast
  by_cases hhash : '#' ∈ url.toList
  · exact iff_of_false (fun h => h.unfragmented hhash) fun h => h.1 hhash
  have hrest : '#' ∉ rest := fun h => hhash ((hparts.marks '#' (.inr rfl)).mpr h)
  obtain ⟨-, -, hquery⟩ := Url.queryOf_joint [] hrest hparts.blank
  have hshort := parse_joint hparts
  rw [List.append_nil, hquery rfl] at hshort
  have hbare : IsBare url ↔ rest = "//@".toList := by
    constructor
    · rintro ⟨scheme', hscheme⟩
      rw [hparts.start] at hscheme
      exact (Prod.mk.inj (Option.some.inj hscheme)).2
    · rintro rfl
      exact ⟨scheme, hparts.start⟩
  rw [hbare]
  constructor
  · refine fun h => ⟨hhash, ?_⟩
    rintro rfl
    have hfront : readFront scheme ("//@".toList ++ [jointOf "//@".toList]) = .error .emptyHost :=
      Url.readFront_slashes (isWeb_of_parts hparts ho)
    have hsettled := h.settled
    rw [hshort, hfront, hurl] at hsettled
    cases hsettled
  · rintro ⟨-, hne⟩
    refine ⟨hhash, ?_⟩
    rw [hshort, Url.readFront_joint (isWeb_of_parts hparts ho) hne, hparts.front, hurl,
      hparts.whole]
    rfl

/-- The url of a feed that lacks only a name is read with the name of the client as one setting
more exactly if the stem of the name is plain and a setting can be put behind the url. The options
are then those of the url, with that name. -/
theorem name_kept_iff (hurl : Url.parse url = .ok u) (ho : ofUrl (u.named name) = .ok o)
    (hunique : IsUnique unique.toList) :
    (Url.parse (withClientId url (uniqueName settings unique)) =
        .ok (u.named (uniqueName settings unique)) ↔
      IsPlain settings.clientIdStem.toList ∧ Extensible url) ∧
    ofUrl (u.named (uniqueName settings unique)) =
      .ok { o with clientId := settings.clientIdStem ++ "-" ++ unique } ∧
    ∀ last, url.toList.getLast? = some last → isEdge last = false →
      (Extensible url ↔ '#' ∉ url.toList ∧ ¬ IsBare url) := by
  refine ⟨parse_withClientId_iff hurl ho hunique, ofUrl_named ?_ ho,
    fun last hend hlast => extensible_iff hurl ho hend hlast⟩
  intro hempty
  have hlength := congrArg (fun s => s.toList.length) hempty
  simp [uniqueName] at hlength

/-- The url of a broker, without settings. -/
def hostUrl : Url :=
  { scheme := "mqtt", host := some (.name "h"), portNumber := some 1884 }

theorem name_kept_iff_default : Url.parse "mqtt://h:1884" = .ok hostUrl ∧
    ofUrl (hostUrl.named "x") =
      .ok { clientId := "x", host := some (.name "h"), portNumber := 1884 } ∧
    IsUnique "7f3b-09".toList ∧
    Url.parse (withClientId "mqtt://h:1884" (uniqueName {} "7f3b-09")) =
      .ok (hostUrl.named "hds-7f3b-09") := by
  have hurl : Url.parse "mqtt://h:1884" = .ok hostUrl := by decide +kernel
  have ho : ofUrl (hostUrl.named "x") =
      .ok { clientId := "x", host := some (.name "h"), portNumber := 1884 } := by decide +kernel
  have hdigits : ("7f3b-09".toList.all fun c => (Text.hexDigit? c).isSome || c == '-') = true := by
    decide
  have hdigit : ("7f3b-09".toList.any fun c => (Text.hexDigit? c).isSome) = true := by decide
  have hunique : IsUnique "7f3b-09".toList :=
    ⟨fun c hc => by simpa using List.all_eq_true.mp hdigits c hc, List.any_eq_true.mp hdigit⟩
  have hwhole : ("hds".toList.all fun c => c != '&' && c != '#') = true := by decide
  have hunbroken : ("hds".toList.all fun c => !isBreak c) = true := by decide
  have hplain : IsPlain "hds".toList :=
    ⟨fun c hc => by simpa using List.all_eq_true.mp hwhole c hc,
      fun c hc => by simpa using List.all_eq_true.mp hunbroken c hc,
      by decide, Url.not_hasEscape (by decide)⟩
  have hextensible : Extensible "mqtt://h:1884" := ⟨by decide, by decide +kernel⟩
  exact ⟨hurl, ho, hunique, (name_kept_iff hurl ho hunique).1.mpr ⟨hplain, hextensible⟩⟩

/-- A url with a fragment is as good as one without it, but the name gets lost in the fragment; and
a stem with a fragment in it takes the unique part away. -/
theorem fragment_swallows_name : Url.parse "mqtt://h:1884#f" = .ok hostUrl ∧
    ofUrl (hostUrl.named "hds-7f3b-09") =
      .ok { clientId := "hds-7f3b-09", host := some (.name "h"), portNumber := 1884 } ∧
    Url.parse (withClientId "mqtt://h:1884#f" (uniqueName {} "7f3b-09")) = .ok hostUrl ∧
    ofUrl hostUrl = .error (.url .clientId) ∧
    Url.parse (withClientId "mqtt://h:1884" (uniqueName { clientIdStem := "a#" } "7f3b-09")) =
      .ok (hostUrl.named "a") := by
  decide +kernel

end Mqtt.Options

end SensorBridge
