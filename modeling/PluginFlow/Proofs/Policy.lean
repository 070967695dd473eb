import PluginFlow.Proofs.Blocks
import PluginFlow.Proofs.HostText
import PluginFlow.Proofs.Mediation

/-!
Which destinations pass. A URL passes exactly when it is an `https` URL with a public host, and the
text of an address passes exactly when the address is not one that the sandbox blocks.
-/

namespace PluginFlow.Net

/-! ### Host texts without blanks and brackets -/

namespace Host

theorem bare_of_toNat {c : Char} (low : 0x20 < c.toNat) (high : c.toNat < 0x7F)
    (left : c.toNat ≠ 0x5B) (right : c.toNat ≠ 0x5D) : Bare c := by
  refine ⟨⟨low, high⟩, ?_, ?_⟩
  · rintro rfl
    exact left rfl
  · rintro rfl
    exact right rfl

theorem bare_of_hexValue? {c : Char} (h : (Text.hexValue? c).isSome) : Bare c := by
  have range : 48 ≤ c.toNat ∧ c.toNat ≤ 57 ∨ 97 ≤ c.toNat ∧ c.toNat ≤ 102 ∨
      65 ≤ c.toNat ∧ c.toNat ≤ 70 := by
    unfold Text.hexValue? at h
    split at h
    · rename_i digit
      rw [Text.isDigit_eq] at digit
      exact .inl (Char.isDigit_iff_toNat.1 digit)
    · split at h
      · rename_i small
        exact .inr (.inl small)
      · split at h
        · rename_i capital
          exact .inr (.inr capital)
        · cases h
  exact bare_of_toNat (by omega) (by omega) (by omega) (by omega)

theorem bare_of_mem_mixedText {x : Ipv6} {c : Char} (h : c ∈ x.mixedText.toList) : Bare c := by
  rcases Ipv6.mem_mixedText h with rfl | rfl | digit
  · exact bare_of_toNat (by decide) (by decide) (by decide) (by decide)
  · exact bare_of_toNat (by decide) (by decide) (by decide) (by decide)
  · exact bare_of_hexValue? digit

theorem bare_of_mem_ipv6 {x : Ipv6} {c : Char} (h : c ∈ x.text.toList) : Bare c := by
  rcases Ipv6.mem_text h with rfl | digit
  · exact bare_of_toNat (by decide) (by decide) (by decide) (by decide)
  · exact bare_of_hexValue? digit

theorem bare_of_mem_ipv4 {x : Ipv4} {c : Char} (h : c ∈ x.text.toList) : Bare c := by
  obtain ⟨high, low, -⟩ := range_of_mem_text h
  exact bare_of_toNat (by omega) (by omega) (by omega) (by omega)

end Host

open Host (Bare)

theorem dropWhile_of_not_mem {cs : List Char} {mark : Char} (h : mark ∉ cs) :
    cs.dropWhile (· == mark) = cs := by
  apply Text.dropWhile_eq_self
  intro c hc
  apply beq_false_of_ne
  rintro rfl
  exact h (List.mem_of_mem_head? hc)

/-- Neither blanks nor brackets are taken off a text of bare characters, but brackets around it
are. -/
theorem bareHost_eq_self {s : String} (h : ∀ c ∈ s.toList, Bare c) : bareHost s = s.toList := by
  have trimmed : Text.trim s = s :=
    Text.trim_eq_self (fun c hc => (h c (List.mem_of_mem_head? hc)).1)
      (fun c hc => (h c (List.mem_of_mem_getLast? hc)).1)
  have front : '[' ∉ s.toList := fun hb => (h '[' hb).2.1 rfl
  have back : ']' ∉ s.toList.reverse := fun hb => (h ']' (List.mem_reverse.1 hb)).2.2 rfl
  rw [bareHost, trimmed, dropWhile_of_not_mem front, dropWhile_of_not_mem back,
    List.reverse_reverse]

theorem bareHost_brackets {s : String} (h : ∀ c ∈ s.toList, Bare c) :
    bareHost ("[" ++ s ++ "]") = s.toList := by
  have shown : ("[" ++ s ++ "]").toList = '[' :: (s.toList ++ [']']) := by simp
  have trimmed : Text.trim ("[" ++ s ++ "]") = "[" ++ s ++ "]" := by
    apply Text.trim_eq_self
    · intro c hc
      rw [shown] at hc
      cases hc
      decide
    · intro c hc
      have last : ('[' :: (s.toList ++ [']'])).getLast? = some ']' :=
        List.getLast?_concat (l := '[' :: s.toList)
      rw [shown, last] at hc
      cases hc
      decide
  have front : '[' ∉ s.toList ++ [']'] := by
    intro hb
    rcases List.mem_append.1 hb with inside | bracket
    · exact (h '[' inside).2.1 rfl
    · cases List.mem_singleton.1 bracket
  have back : ']' ∉ s.toList.reverse := fun hb => (h ']' (List.mem_reverse.1 hb)).2.2 rfl
  rw [bareHost, trimmed, shown, List.dropWhile_cons_of_pos (by decide), dropWhile_of_not_mem front,
    List.reverse_append, List.reverse_singleton, List.singleton_append,
    List.dropWhile_cons_of_pos (by decide), dropWhile_of_not_mem back, List.reverse_reverse]

/-! ### What is checked of a host text -/

theorem checkHost_eq_check {s : String} {cs : List Char} {h : Host} (bare : bareHost s = cs)
    (nonempty : cs ≠ []) (read : readHost cs = .ok h) : checkHost s = h.check := by
  have shown : cs.isEmpty = false := by simpa using nonempty
  simp only [checkHost, bare, shown, read]
  rfl

theorem readHost_ipv6 {cs : List Char} {x : Ipv6} (colon : ':' ∈ cs)
    (read : Ipv6.ofChars? cs = some x) : readHost cs = .ok (.ipv6 x) := by
  rw [readHost, if_pos (List.contains_iff_mem.2 colon), Host.parse_brackets, Host.ofBrackets,
    Option.bind_some, read]

theorem readHost_of_no_colon {s : String} (h : ':' ∉ s.toList) :
    readHost s.toList = Host.parse s := by
  rw [readHost, if_neg (by simpa using h), String.ofList_toList]

/-- The text of an address is checked as that address. -/
theorem checkHost_address (a : Address) :
    checkHost a.text = match a with
      | .v4 a => (Host.ipv4 a).check
      | .v6 x => (Host.ipv6 x).check := by
  cases a with
  | v4 a =>
    have read : readHost a.text.toList = .ok (.ipv4 a) := by
      rw [readHost_of_no_colon a.colon_not_mem_text, Host.parse_ipv4_text]
    exact checkHost_eq_check (bareHost_eq_self fun c => Host.bare_of_mem_ipv4)
      a.toList_text_ne_nil read
  | v6 x =>
    have colon := x.colon_mem_mixedText
    exact checkHost_eq_check (bareHost_eq_self fun c => Host.bare_of_mem_mixedText)
      (List.ne_nil_of_mem colon) (readHost_ipv6 colon x.ofChars?_mixedText)

/-- The text of a host in a URL is checked as that host, if a name is read as itself. -/
theorem checkHost_text {s : String} {h : Host} (hp : Host.parse s = .ok h)
    (readable : ∀ name, h = .domain name → Host.parse name = .ok (.domain name)) :
    checkHost h.text = h.check := by
  cases h with
  | domain name =>
    obtain ⟨nonempty, bare⟩ := Host.bare_of_parse hp
    have read : readHost name.toList = .ok (.domain name) := by
      rw [readHost_of_no_colon fun hc => (bare ':' hc).2 rfl, readable name rfl]
    exact checkHost_eq_check (bareHost_eq_self fun c hc => (bare c hc).1) nonempty read
  | ipv4 a => exact checkHost_address (.v4 a)
  | ipv6 x =>
    have colon := x.colon_mem_text
    exact checkHost_eq_check (bareHost_brackets fun c => Host.bare_of_mem_ipv6)
      (List.ne_nil_of_mem colon) (readHost_ipv6 colon x.ofChars?_text)

/-! ### Which hosts pass -/

/-- The addresses among the names of this host are blocked by their numbers too. -/
theorem Address.isBlocked_of_local {a : Address} (h : a.text ∈ localHosts) :
    a.isBlocked = true := by
  cases a with
  | v4 a =>
    have all : ∀ text ∈ localHosts, (Ipv4.ofChars? text.toList).all Ipv4.isPrivate = true := by
      decide
    simpa [text, isBlocked, Ipv4.ofChars?_text] using all _ h
  | v6 x =>
    have all : ∀ text ∈ localHosts,
        (Ipv6.ofChars? text.toList).all (fun x => (Address.v6 x).isBlocked) = true := by
      decide
    simpa [text, Ipv6.ofChars?_mixedText] using all _ h

theorem checkAddress_eq_ok {a : Address} : checkAddress a = .ok () ↔ a.isBlocked = false := by
  unfold checkAddress
  split
  · rename_i isLocal
    simp [Address.isBlocked_of_local isLocal]
  · split
    · rename_i blocked
      simp [blocked]
    · rename_i free
      simpa using free

/-- An IPv4 address in the form of an IPv6 one is blocked as the IPv4 address. -/
theorem isBlocked_unmapped (x : Ipv6) :
    ((x.mapped?.map Address.v4).getD (.v6 x)).isBlocked = (Address.v6 x).isBlocked := by
  cases h : x.mapped? with
  | none => rfl
  | some a =>
    have pieces := Ipv6.mapped?_eq_some.1 h
    simp [Address.isBlocked, h, Ipv6.isLoopback, Ipv6.isUnspecified, Ipv6.isUniqueLocal,
      Ipv6.isLinkLocal, Ipv6.first, pieces]

namespace Host

/-- A host that may be contacted: a name that is no name of this host, full stops at its end aside,
or an address that is not private. -/
def Public : Host → Prop
  | .domain name => withoutLastStops name ∉ ["localhost", "127.0.0.1", "0.0.0.0"]
  | .ipv4 a => ¬ (Address.v4 a).Private
  | .ipv6 x => ¬ (Address.v6 x).Private

instance : (h : Host) → Decidable h.Public
  | .domain _ => inferInstanceAs (Decidable (_ ∉ _))
  | .ipv4 _ => inferInstanceAs (Decidable (¬ _))
  | .ipv6 _ => inferInstanceAs (Decidable (¬ _))

theorem mem_of_mem_withoutLastStops {name : String} {c : Char}
    (h : c ∈ (withoutLastStops name).toList) : c ∈ name.toList := by
  rw [withoutLastStops, String.toList_ofList, List.mem_reverse] at h
  exact List.mem_reverse.1 ((List.dropWhile_suffix _).subset h)

/-- The hosts of URLs that pass are the public ones. -/
theorem check_eq_ok_iff {s : String} {h : Host} (hp : parse s = .ok h) :
    h.check = .ok () ↔ h.Public := by
  cases h with
  | domain name =>
    have differs : withoutLastStops name ≠ "::1" := by
      intro same
      have colon : ':' ∈ name.toList := mem_of_mem_withoutLastStops (by rw [same]; decide)
      exact ((bare_of_parse hp).2 ':' colon).2 rfl
    have listed : withoutLastStops name ∈ localHosts ↔
        withoutLastStops name ∈ ["localhost", "127.0.0.1", "0.0.0.0"] := by
      simp [localHosts, differs]
    rw [Public, ← listed, check]
    split
    · rename_i isLocal
      simp [isLocal]
    · rename_i other
      simp [other]
  | ipv4 a =>
    rw [check, checkAddress_eq_ok, Public, ← Address.isBlocked_iff, Bool.not_eq_true]
  | ipv6 x =>
    rw [check, checkAddress_eq_ok, isBlocked_unmapped, Public, ← Address.isBlocked_iff,
      Bool.not_eq_true]

end Host

theorem checkHost_address_eq_ok {a : Address} :
    checkHost a.text = .ok () ↔ a.isBlocked = false := by
  rw [checkHost_address]
  cases a with
  | v4 a => exact checkAddress_eq_ok
  | v6 x =>
    dsimp only
    rw [Host.check, checkAddress_eq_ok, isBlocked_unmapped]

theorem checkUrl_eq_ok_iff {s : String} {u : Url} :
    checkUrl s = .ok u ↔ Url.parse (Text.trim s) = .ok u ∧ u.scheme = "https" ∧
      checkHost (u.hostText?.getD "") = .ok () := by
  refine ⟨checkUrl_eq_ok, ?_⟩
  rintro ⟨parsed, https, passed⟩
  simp [checkUrl, parsed, https, passed]

/-- A name with an encoded label is read as itself when it is the host of the URL that a text
spells. -/
def EncodedNamesReadable (s : String) : Prop :=
  ∀ u name, Url.parse (Text.trim s) = .ok u → u.host = some (.domain name) →
    Idna.isPlain name.toList = false → Host.parse name = .ok (.domain name)

/-- A URL passes exactly when it is an `https` URL with a public host. The text of an address
passes exactly when the sandbox does not block the address, and those it blocks are the private
ones. -/
theorem passes_iff_public :
    (∀ s, EncodedNamesReadable s → ∀ u, checkUrl s = .ok u ↔
      Url.parse (Text.trim s) = .ok u ∧ u.scheme = "https" ∧ ∃ h, u.host = some h ∧ h.Public) ∧
    ∀ a : Address, (checkHost a.text = .ok () ↔ a.isBlocked = false) ∧
      (a.isBlocked = false ↔ ¬ a.Private) := by
  constructor
  · intro s readable u
    rw [checkUrl_eq_ok_iff]
    refine and_congr_right fun parsed => and_congr_right fun https => ?_
    have special : (Url.defaultPort? u.scheme).isSome = true := by rw [https]; rfl
    obtain ⟨-, text, h, host, read⟩ := Url.parse_eq_ok parsed special
    have again : ∀ name, h = .domain name → Host.parse name = .ok (.domain name) := by
      rintro name rfl
      cases plain : Idna.isPlain name.toList with
      | true => exact Host.parse_name read plain
      | false => exact readable u name parsed host plain
    have shown : u.hostText?.getD "" = h.text := by rw [Url.hostText?, host]; rfl
    rw [shown, checkHost_text read again, Host.check_eq_ok_iff read, host]
    simp
  · intro a
    refine ⟨checkHost_address_eq_ok, ?_⟩
    rw [← Address.isBlocked_iff, Bool.not_eq_true]

theorem example_page_passes :
    EncodedNamesReadable "https://example.com/x" ∧
      (checkUrl "https://example.com/x").toOption.map Url.text = some "https://example.com/x" := by
  have parsed : Url.parse (Text.trim "https://example.com/x") =
      .ok { scheme := "https", hasAuthority := true, host := some (.domain "example.com"),
            path := "/x" } := by
    rfl
  have readable : EncodedNamesReadable "https://example.com/x" := by
    intro u name h host encoded
    rw [parsed] at h
    cases h
    cases host
    have plain : Idna.isPlain "example.com".toList = true := by decide +kernel
    rw [plain] at encoded
    cases encoded
  have passed := (passes_iff_public.1 _ readable _).2 ⟨parsed, rfl, _, rfl, by decide +kernel⟩
  refine ⟨readable, ?_⟩
  rw [passed]
  decide +kernel

/-- Four octets with two full stops behind them are a name and no address, and the name of this host
all the same. -/
theorem octets_before_stops_refused :
    ∃ u, Url.parse (Text.trim "https://127.0.0.1../") = .ok u ∧ u.scheme = "https" ∧
      u.host = some (.domain "127.0.0.1..") ∧ withoutLastStops "127.0.0.1.." ≠ "localhost" ∧
      checkUrl "https://127.0.0.1../" = .error .localHostBlocked := by
  refine ⟨{ scheme := "https", hasAuthority := true, host := some (.domain "127.0.0.1.."),
            path := "/" }, ?_, rfl, rfl, by decide +kernel, ?_⟩
  · rfl
  · rfl

end PluginFlow.Net
