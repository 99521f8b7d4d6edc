/-
The grammar of URLs. Five parts make up the text of a URL: a scheme, credentials, a host, a numeral for the
port and slashes behind it. Little is asked of each part alone, and nothing of the credentials but that they
decode; still no text is made up of parts in two ways, because each cut of the reader falls between two of
them, wherever delimiters stand inside.
-/
import SeriesCatalog.Proofs.ServerUrl.ReadBack

namespace SeriesCatalog.ServerUrl

open Text

variable {u : ServerUrl}

/-! ## Parts -/

/-- The parts of a text that may spell a URL. -/
structure Parts where
  scheme : String
  credentials : String
  host : String
  numeral : String
  slashes : Nat
  deriving DecidableEq, Repr

namespace Parts

variable {p q : Parts}

/-- The text that the parts make up. -/
def text (p : Parts) : String :=
  p.scheme ++ "://" ++ p.credentials ++ "@" ++ p.host ++ ":" ++ p.numeral ++
    String.ofList (List.replicate p.slashes '/')

/-- The part for the port spells the number: at least one ASCII digit, behind a plus sign or none. -/
def SpellsPort (p : Parts) (n : Nat) : Prop :=
  ∃ digits, (p.numeral.toList = digits ∨ p.numeral.toList = '+' :: digits) ∧ digits ≠ [] ∧
    (∀ c ∈ digits, c.isDigit = true) ∧ Digits.number 10 (Json.digits digits) = n

/-- Scheme and host end where their delimiters say, and the port is one of 16 bits. -/
structure Sound (p : Parts) : Prop where
  scheme : p.scheme ≠ "" ∧ ¬ "://".toList <:+: p.scheme.toList
  host : p.host ≠ "" ∧ '@' ∉ p.host.toList
  port : ∃ n ≤ 65535, p.SpellsPort n

/-- The part for the credentials is the user up to the first colon and then the password, or the user alone if
there is no colon; here they stand in percent encoding. -/
def SpellsCredentials (p : Parts) (user password : String) : Prop :=
  ∃ front back, ':' ∉ front ∧
    (p.credentials.toList = front ++ ':' :: back ∨ p.credentials.toList = front ∧ back = []) ∧
    Utf8.decode (Percent.decode front) = .ok user.toList ∧ Utf8.decode (Percent.decode back) = .ok password.toList

/-- The parts are those of the URL. -/
structure Names (p : Parts) (u : ServerUrl) : Prop where
  scheme : u.scheme = p.scheme
  host : u.host = p.host
  port : p.SpellsPort u.port.toNat
  credentials : p.SpellsCredentials u.user u.password

/-! ## What the parts say -/

theorem read_numeral_eq_ok_iff {n : Nat} :
    Bounded.read Bounded.max16 p.numeral.toList = .ok n ↔ p.SpellsPort n ∧ n ≤ 65535 := by
  rw [Bounded.read_eq_ok_iff]
  constructor
  · rintro ⟨digits, hsign, hne, hall, hn, hle⟩
    exact ⟨⟨digits, hsign, hne, hall, hn⟩, hle⟩
  · rintro ⟨⟨digits, hsign, hne, hall, hn⟩, hle⟩
    exact ⟨digits, hsign, hne, hall, hn, hle⟩

theorem splitUser_eq_iff {info user password : List Char} :
    splitUser info = (user, password) ↔
      ':' ∉ user ∧ (info = user ++ ':' :: password ∨ info = user ∧ password = []) := by
  constructor
  · intro h
    rw [splitUser] at h
    cases hcut : cutFirst [':'] info with
    | some cut =>
      rw [hcut, Option.getD_some] at h
      obtain ⟨hinfo, hcolon⟩ := cutFirst_singleton_eq_some_iff.1 (h ▸ hcut)
      exact ⟨hcolon, .inl hinfo⟩
    | none =>
      rw [hcut, Option.getD_none] at h
      cases h
      exact ⟨cutFirst_singleton_eq_none_iff.1 hcut, .inr ⟨rfl, rfl⟩⟩
  · rintro ⟨hcolon, rfl | ⟨rfl, rfl⟩⟩
    · exact splitUser_append password hcolon
    · rw [splitUser, cutFirst_singleton_eq_none_iff.2 hcolon, Option.getD_none]

theorem credits_iff : u.Credits p.credentials.toList ↔ p.SpellsCredentials u.user u.password := by
  constructor
  · rintro ⟨huser, hpassword⟩
    obtain ⟨hcolon, hsplit⟩ := splitUser_eq_iff.1 (rfl : splitUser p.credentials.toList = (_, _))
    exact ⟨_, _, hcolon, hsplit, huser, hpassword⟩
  · rintro ⟨front, back, hcolon, hsplit, huser, hpassword⟩
    have hcut := splitUser_eq_iff.2 ⟨hcolon, hsplit⟩
    exact ⟨by rw [hcut]; exact huser, by rw [hcut]; exact hpassword⟩

theorem toList_text (p : Parts) :
    p.text.toList = p.scheme.toList ++ "://".toList ++
        (p.credentials.toList ++ '@' :: (p.host.toList ++ ':' :: p.numeral.toList)) ++
      List.replicate p.slashes '/' := by
  simp [text]

theorem Names.delimited_iff (h : p.Names u) : u.Delimited ↔ p.Sound := by
  constructor
  · rintro ⟨hscheme, hmark, hhost, hat⟩
    have hport : u.port.toNat ≤ 65535 := by
      have := u.port.toNat_lt
      omega
    rw [h.scheme] at hscheme hmark
    rw [h.host] at hhost hat
    exact ⟨⟨hscheme, hmark⟩, ⟨hhost, hat⟩, ⟨_, hport, h.port⟩⟩
  · rintro ⟨⟨hscheme, hmark⟩, ⟨hhost, hat⟩, -⟩
    rw [← h.scheme] at hscheme hmark
    rw [← h.host] at hhost hat
    exact ⟨hscheme, hmark, hhost, hat⟩

/-! ## One text -/

/-- Sound parts are found again in their text. -/
theorem Sound.eq_of_text_eq (hp : p.Sound) (hq : q.Sound) (htext : p.text = q.text) : p = q := by
  have hcuts : ∀ p : Parts, p.Sound → ∃ rest place,
      cutFirst "://".toList p.text.toList = some (p.scheme.toList, rest ++ List.replicate p.slashes '/') ∧
      Cut.trimEnd (· == '/') (rest ++ List.replicate p.slashes '/') = rest ∧
      cutLast '@' rest = some (p.credentials.toList, place) ∧
      cutLast ':' place = some (p.host.toList, p.numeral.toList) := by
    intro p hp
    obtain ⟨n, hn, hport⟩ := hp.port
    rw [toList_text]
    exact ⟨_, _, cuts_of_parts _ hp.scheme.2 hp.host.2 (read_numeral_eq_ok_iff.2 ⟨hport, hn⟩) (by simp)⟩
  obtain ⟨rest, place, hscheme, htrim, hinfo, hhost⟩ := hcuts p hp
  obtain ⟨rest', place', hscheme', htrim', hinfo', hhost'⟩ := hcuts q hq
  -- from the left and from the right the same is cut off, one part after another
  rw [htext, hscheme', Option.some_inj, Prod.mk.injEq] at hscheme
  obtain ⟨hschemes, hrests⟩ := hscheme
  obtain rfl : rest' = rest := by rw [← htrim', hrests, htrim]
  rw [hinfo', Option.some_inj, Prod.mk.injEq] at hinfo
  obtain ⟨hinfos, rfl⟩ := hinfo
  rw [hhost', Option.some_inj, Prod.mk.injEq] at hhost
  have hslashes : q.slashes = p.slashes := by
    simpa using congrArg List.length (List.append_cancel_left hrests)
  cases p
  cases q
  simp only [mk.injEq, String.toList_inj] at *
  exact ⟨hschemes.symm, hinfos.symm, hhost.1.symm, hhost.2.symm, hslashes.symm⟩

end Parts

/-- Exactly those texts are read as a URL that sound parts of the URL make up, and all others are refused. No two sound
parts make up the same text, whether or not their credentials decode. -/
theorem parse_eq_ok_iff_parts :
    (∀ (s : String) (u : ServerUrl), parse s = .ok u ↔ ∃ p : Parts, p.Sound ∧ s = p.text ∧ p.Names u) ∧
    (∀ s : String, (∃ fault, parse s = .error fault) ↔
      ¬ ∃ (u : ServerUrl) (p : Parts), p.Sound ∧ s = p.text ∧ p.Names u) ∧
    ∀ p q : Parts, p.Sound → q.Sound → p.text = q.text → p = q := by
  have hiff : ∀ (s : String) (u : ServerUrl), parse s = .ok u ↔ ∃ p : Parts, p.Sound ∧ s = p.text ∧ p.Names u := by
    intro s u
    rw [parse_eq_ok_iff, read_eq_ok_iff]
    constructor
    · rintro ⟨info, digits, slashes, htext, hslashes, hdelimited, hcredits, hport⟩
      let p : Parts := ⟨u.scheme, String.ofList info, u.host, String.ofList digits, slashes.length⟩
      have hnames : p.Names u :=
        ⟨rfl, rfl, (Parts.read_numeral_eq_ok_iff.1 (by simpa [p] using hport)).1,
          Parts.credits_iff.1 (by simpa [p] using hcredits)⟩
      refine ⟨p, hnames.delimited_iff.1 hdelimited, String.toList_injective ?_, hnames⟩
      rw [htext, Parts.toList_text, spelling, ← List.eq_replicate_length.2 hslashes]
      simp [p]
    · rintro ⟨p, hsound, rfl, hnames⟩
      refine ⟨p.credentials.toList, p.numeral.toList, List.replicate p.slashes '/', ?_, by simp,
        hnames.delimited_iff.2 hsound, Parts.credits_iff.2 hnames.credentials, ?_⟩
      · rw [Parts.toList_text, spelling, hnames.scheme, hnames.host]
      · have hlt := u.port.toNat_lt
        exact Parts.read_numeral_eq_ok_iff.2 ⟨hnames.port, by omega⟩
  refine ⟨hiff, fun s => ?_, fun p q hp hq => hp.eq_of_text_eq hq⟩
  simp only [← hiff]
  cases parse s with
  | ok u => simp
  | error fault => simp

/-- Delimiters stand inside the parts as well, and still the text is made up of no others. -/
theorem parse_eq_ok_of_parts_crowded :
    let p : Parts := ⟨"a:/", "u:p@q://%2f", "h:/", "+0080", 2⟩
    let u : ServerUrl := ⟨"a:/", "u", "p@q:///", "h:/", 80⟩
    p.Sound ∧ p.Names u ∧ parse "a:/://u:p@q://%2f@h:/:+0080//" = .ok u ∧
      ∀ q : Parts, q.Sound → q.text = "a:/://u:p@q://%2f@h:/:+0080//" → q = p := by
  intro p u
  have hport : p.SpellsPort 80 :=
    ⟨"0080".toList, .inr (by decide), by decide, List.all_eq_true.1 (by decide), by decide⟩
  have hsound : p.Sound := ⟨by decide, by decide, 80, by decide, hport⟩
  have hcredentials : p.SpellsCredentials u.user u.password :=
    ⟨"u".toList, "p@q://%2f".toList, by decide, .inl (by decide), by decide, by decide⟩
  have hnames : p.Names u := ⟨rfl, rfl, hport, hcredentials⟩
  have htext : "a:/://u:p@q://%2f@h:/:+0080//" = p.text := by decide +kernel
  exact ⟨hsound, hnames, (parse_eq_ok_iff_parts.1 _ u).2 ⟨p, hsound, htext, hnames⟩,
    fun q hq hqtext => parse_eq_ok_iff_parts.2.2 q p hq hsound (hqtext.trans htext)⟩

end SeriesCatalog.ServerUrl
