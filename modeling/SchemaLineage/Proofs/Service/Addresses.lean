import Mathlib
import SchemaLineage.Proofs.Service.Registrations
/-
Whose address an address is.

The address of a server strings the parts of a login together, with a mark after each.  A part may
hold such a mark itself, and then the mark may as well be the one that ends the part: what stands
behind it moves to the next part (`Login.Shift`).  Two logins have the same address exactly if such
moves lead from one to the other (`Login.written_eq_iff`), at most one for each mark.  So an address
tells its login if no part can be cut in another place, and only then (`Login.plain_iff`).
-/

namespace SchemaLineage

/-- Two ways to cut a text at marks: at the same place, or one before the other. -/
theorem Text.append_cons_cases {α : Type} {x y : α} {a b c d : List α}
    (h : a ++ x :: b = c ++ y :: d) :
    (c = a ∧ y = x ∧ d = b) ∨ (∃ e, c = a ++ x :: e ∧ b = e ++ y :: d) ∨
      ∃ e, a = c ++ y :: e ∧ d = e ++ x :: b := by
  rcases List.append_eq_append_iff.mp h with ⟨e, hc, hb⟩ | ⟨e, ha, hd⟩
  · cases e with
    | nil =>
      obtain ⟨hxy, hbd⟩ := List.cons.inj hb
      exact .inl ⟨by rw [hc, List.append_nil], hxy.symm, hbd.symm⟩
    | cons z e =>
      obtain ⟨rfl, hbd⟩ := List.cons.inj hb
      exact .inr (.inl ⟨e, hc, hbd⟩)
  · cases e with
    | nil =>
      obtain ⟨hxy, hbd⟩ := List.cons.inj hd
      exact .inl ⟨by rw [ha, List.append_nil], hxy, hbd⟩
    | cons z e =>
      obtain ⟨rfl, hbd⟩ := List.cons.inj hd
      exact .inr (.inr ⟨e, ha, hbd⟩)

/-- Who enters which database of which server. -/
structure Login where
  username : String
  password : String
  host : String
  port : Option Int
  database : String
  deriving DecidableEq, Repr

/-- The login of a connection to a server that leaves at most the port open. -/
def Connection.login? (c : Connection) : Option Login :=
  match c.kind, c.username, c.password, c.host, c.database with
  | .postgresql, some username, some password, some host, some database =>
    some ⟨username, password, host, c.port, database⟩
  | _, _, _, _, _ => none

namespace Login

variable {l m : Login}

def portText (port : Option Int) : String := Connection.part (port.map toString)

/-- What stands behind the password in an address. -/
def place (host : String) (port : Option Int) (database : String) : List Char :=
  host.toList ++ ':' :: ((portText port).toList ++ '/' :: database.toList)

/-- The address without its beginning, which is the same for all servers. -/
def written (l : Login) : List Char :=
  l.username.toList ++ ':' :: (l.password.toList ++ '@' :: place l.host l.port l.database)

/-- A mark is taken for the one that ends a part, and what stands before it or behind it goes over
to the part next to it. -/
inductive Shift : Login → Login → Prop
  | colon (username moved password host : String) (port : Option Int) (database : String) :
    Shift ⟨username, moved ++ ":" ++ password, host, port, database⟩
      ⟨username ++ ":" ++ moved, password, host, port, database⟩
  | atSign (username password moved host : String) (port : Option Int) (database : String) :
    Shift ⟨username, password, moved ++ "@" ++ host, port, database⟩
      ⟨username, password ++ "@" ++ moved, host, port, database⟩
  | port (username password host moved : String) (port port' : Option Int) (database : String) :
    Shift ⟨username, password, host, port, moved ++ ":" ++ portText port' ++ "/" ++ database⟩
      ⟨username, password, host ++ ":" ++ portText port ++ "/" ++ moved, port', database⟩

/-- A port stands in the text, between the marks that it has in an address. -/
def HasPort (s : String) : Prop :=
  ∃ before port after, s = before ++ ":" ++ portText port ++ "/" ++ after

/-- No part holds what could be taken for a mark next to it. -/
structure Plain (l : Login) : Prop where
  username : ':' ∉ l.username.toList
  password : ':' ∉ l.password.toList ∧ '@' ∉ l.password.toList
  host : '@' ∉ l.host.toList ∧ ¬ HasPort l.host
  database : ¬ HasPort l.database

/-! ## Logins with one address -/

/-- A number is written without marks. -/
theorem not_mem_repr {c : Char} (hdigit : c.isDigit = false) (hsign : c ≠ '-') (n : Int) :
    c ∉ n.repr.toList := by
  have hnat : ∀ k : Nat, c ∉ k.repr.toList := by
    intro k hc
    rw [Nat.toList_repr] at hc
    rw [Nat.isDigit_of_mem_toDigits (by omega) (by omega) hc] at hdigit
    cases hdigit
  rw [Int.repr_eq_if]
  split
  · exact hnat _
  · rw [String.toList_append, List.mem_append, not_or]
    exact ⟨fun hc => hsign (List.mem_singleton.mp hc), hnat _⟩

theorem colon_not_mem_portText (port : Option Int) : ':' ∉ (portText port).toList := by
  cases port with
  | none => decide
  | some n => exact not_mem_repr (by decide) (by decide) n

theorem slash_not_mem_portText (port : Option Int) : '/' ∉ (portText port).toList := by
  cases port with
  | none => decide
  | some n => exact not_mem_repr (by decide) (by decide) n

/-- The word for a port that is left open is no number. -/
theorem portText_inj {p q : Option Int} (h : portText p = portText q) : p = q := by
  have hword : ∀ n : Int, portText none ≠ portText (some n) := by
    intro n hn
    have hletter : 'N' ∈ (portText (some n)).toList := by rw [← hn]; decide
    exact not_mem_repr (by decide) (by decide) n hletter
  cases p with
  | none =>
    cases q with
    | none => rfl
    | some n => exact absurd h (hword n)
  | some m =>
    cases q with
    | none => exact absurd h.symm (hword m)
    | some n => exact congrArg some (Int.repr_injective h)

theorem exists_rest {s t : String} {c : Char} {e : List Char} (h : s.toList = t.toList ++ c :: e) :
    ∃ v : String, s = t ++ String.singleton c ++ v ∧ v.toList = e :=
  ⟨String.ofList e, String.toList_injective (by simp [h]), String.toList_ofList⟩

theorem Shift.written_eq (h : Shift l m) : l.written = m.written := by
  cases h <;> simp [written, place]

variable {username password password' host host' database database' : String}
  {port port' : Option Int} {e : List Char}

/-- The port of one place stands in the database of the other. -/
theorem shift_of_longer_host (hhost : host'.toList = host.toList ++ ':' :: e)
    (hrest : (portText port).toList ++ '/' :: database.toList =
      e ++ ':' :: ((portText port').toList ++ '/' :: database'.toList)) :
    Shift ⟨username, password, host, port, database⟩
      ⟨username, password, host', port', database'⟩ := by
  rcases Text.append_cons_cases hrest with ⟨-, hmark, -⟩ | ⟨f, rfl, hdatabase⟩ | ⟨f, hport, -⟩
  · cases hmark
  · obtain ⟨v, rfl, rfl⟩ : ∃ v : String, host' = host ++ ":" ++ portText port ++ "/" ++ v ∧
        v.toList = f := ⟨String.ofList f, String.toList_injective (by simp [hhost]), by simp⟩
    obtain rfl : database = v ++ ":" ++ portText port' ++ "/" ++ database' :=
      String.toList_injective (by simp [hdatabase])
    exact .port username password host v port port' database'
  · have hcolon : ':' ∈ (portText port).toList := by simp [hport]
    exact absurd hcolon (colon_not_mem_portText port)

theorem eqvGen_of_place_eq (h : place host port database = place host' port' database') :
    Relation.EqvGen Shift ⟨username, password, host, port, database⟩
      ⟨username, password, host', port', database'⟩ := by
  rcases Text.append_cons_cases h with ⟨hhost, -, hrest⟩ | ⟨e, hhost, hrest⟩ | ⟨e, hhost, hrest⟩
  · rcases Text.append_cons_cases hrest with ⟨hport, -, hdatabase⟩ | ⟨e, hport, -⟩ | ⟨e, hport, -⟩
    · obtain rfl := String.toList_injective hhost
      obtain rfl := portText_inj (String.toList_injective hport)
      obtain rfl := String.toList_injective hdatabase
      exact .refl _
    · exact absurd (by simp [hport]) (slash_not_mem_portText port)
    · exact absurd (by simp [hport]) (slash_not_mem_portText port')
  · exact .rel _ _ (shift_of_longer_host hhost hrest)
  · exact .symm _ _ (.rel _ _ (shift_of_longer_host hhost hrest))

theorem eqvGen_of_longer_password (hpassword : password'.toList = password.toList ++ '@' :: e)
    (hrest : place host port database = e ++ '@' :: place host' port' database') :
    Relation.EqvGen Shift ⟨username, password, host, port, database⟩
      ⟨username, password', host', port', database'⟩ := by
  obtain ⟨v, rfl, rfl⟩ := exists_rest hpassword
  have hplace : place host port database = place (v ++ "@" ++ host') port' database' := by
    rw [hrest]
    simp [place]
  exact .trans _ _ _ (eqvGen_of_place_eq hplace)
    (.rel _ _ (.atSign username password v host' port' database'))

theorem eqvGen_of_password_eq
    (h : password.toList ++ '@' :: place host port database =
      password'.toList ++ '@' :: place host' port' database') :
    Relation.EqvGen Shift ⟨username, password, host, port, database⟩
      ⟨username, password', host', port', database'⟩ := by
  rcases Text.append_cons_cases h with ⟨hpassword, -, hrest⟩ | ⟨e, hpassword, hrest⟩ |
    ⟨e, hpassword, hrest⟩
  · obtain rfl := String.toList_injective hpassword
    exact eqvGen_of_place_eq hrest.symm
  · exact eqvGen_of_longer_password hpassword hrest
  · exact .symm _ _ (eqvGen_of_longer_password hpassword hrest)

theorem eqvGen_of_longer_username (husername : m.username.toList = l.username.toList ++ ':' :: e)
    (hrest : l.password.toList ++ '@' :: place l.host l.port l.database =
      e ++ ':' :: (m.password.toList ++ '@' :: place m.host m.port m.database)) :
    Relation.EqvGen Shift l m := by
  obtain ⟨username, password, host, port, database⟩ := m
  obtain ⟨v, rfl, rfl⟩ := exists_rest husername
  have hpassword : l.password.toList ++ '@' :: place l.host l.port l.database =
      (v ++ ":" ++ password).toList ++ '@' :: place host port database := by
    simp [hrest]
  exact .trans _ _ _ (eqvGen_of_password_eq hpassword)
    (.rel _ _ (.colon l.username v password host port database))

/-- Two logins have the same address exactly if marks can be moved from one to the other. -/
theorem written_eq_iff : l.written = m.written ↔ Relation.EqvGen Shift l m := by
  constructor
  · intro h
    rcases Text.append_cons_cases h with ⟨husername, -, hrest⟩ | ⟨e, husername, hrest⟩ |
      ⟨e, husername, hrest⟩
    · obtain ⟨username, password, host, port, database⟩ := l
      obtain rfl := String.toList_injective husername
      exact eqvGen_of_password_eq hrest.symm
    · exact eqvGen_of_longer_username husername hrest
    · exact .symm _ _ (eqvGen_of_longer_username husername hrest)
  · intro h
    induction h with
    | rel l m h => exact h.written_eq
    | refl l => rfl
    | symm l m _ ih => exact ih.symm
    | trans l m n _ _ ihl ihm => exact ihl.trans ihm

/-! ## Logins that their address tells -/

/-- A mark that is moved stands further on. -/
theorem Shift.ne (h : Shift l m) : m ≠ l := by
  intro heq
  have hlength := congrArg (fun l => (l.username.toList.length, l.password.toList.length,
    l.host.toList.length)) heq
  cases h <;> simp at hlength

/-- A plain login is one in which no mark can be moved. -/
theorem plain_iff : l.Plain ↔ ∀ m, ¬ Shift l m ∧ ¬ Shift m l := by
  constructor
  · intro h m
    constructor
    · intro hshift
      cases hshift with
      | colon => exact h.password.1 (by simp)
      | atSign => exact h.host.1 (by simp)
      | port => exact h.database ⟨_, _, _, rfl⟩
    · intro hshift
      cases hshift with
      | colon => exact h.username (by simp)
      | atSign => exact h.password.2 (by simp)
      | port => exact h.host.2 ⟨_, _, _, rfl⟩
  · intro h
    obtain ⟨username, password, host, port, database⟩ := l
    have hcut : ∀ {c : Char} {s : String}, c ∈ s.toList →
        ∃ v w : String, s = v ++ String.singleton c ++ w := by
      intro c s hc
      obtain ⟨a, b, hs⟩ := List.append_of_mem hc
      exact ⟨String.ofList a, String.ofList b, String.toList_injective (by simp [hs])⟩
    refine ⟨fun hc => ?_, ⟨fun hc => ?_, fun hc => ?_⟩, ⟨fun hc => ?_, ?_⟩, ?_⟩
    · obtain ⟨v, w, rfl⟩ := hcut hc
      exact (h _).2 (.colon v w password host port database)
    · obtain ⟨v, w, rfl⟩ := hcut hc
      exact (h _).1 (.colon username v w host port database)
    · obtain ⟨v, w, rfl⟩ := hcut hc
      exact (h _).2 (.atSign username v w host port database)
    · obtain ⟨v, w, rfl⟩ := hcut hc
      exact (h _).1 (.atSign username password v w port database)
    · rintro ⟨v, port', w, rfl⟩
      exact (h _).2 (.port username password v w port' port database)
    · rintro ⟨v, port', w, rfl⟩
      exact (h _).1 (.port username password host v port port' w)

theorem eq_of_eqvGen (h : Relation.EqvGen Shift l m) (hplain : l.Plain ∨ m.Plain) : m = l := by
  induction h with
  | rel l m h =>
    rcases hplain with hl | hm
    · exact absurd h (plain_iff.mp hl m).1
    · exact absurd h (plain_iff.mp hm l).2
  | refl l => rfl
  | symm l m _ ih => exact (ih hplain.symm).symm
  | trans l m n _ _ ihl ihm =>
    rcases hplain with hl | hn
    · obtain rfl := ihl (.inl hl)
      exact ihm (.inl hl)
    · obtain rfl := ihm (.inr hn)
      exact ihl (.inr hn)

/-- The address of a plain login is the address of no other one. -/
theorem plain_iff_written : l.Plain ↔ ∀ m : Login, m.written = l.written → m = l := by
  constructor
  · intro hplain m h
    exact eq_of_eqvGen (written_eq_iff.mp h.symm) (.inl hplain)
  · intro h
    refine plain_iff.mpr fun m => ⟨fun hshift => ?_, fun hshift => ?_⟩
    · exact hshift.ne (h m hshift.written_eq.symm)
    · exact hshift.ne (h m hshift.written_eq).symm

/-! ## Connections -/

variable {c d : Connection}

theorem url_of_login? (h : c.login? = some l) :
    c.url.toList = "postgresql+psycopg2://".toList ++ l.written := by
  unfold Connection.login? at h
  split at h
  · rename_i hkind husername hpassword hhost hdatabase
    obtain rfl := Option.some.inj h
    simp only [Connection.url, hkind, husername, hpassword, hhost, hdatabase, written, place,
      Connection.part]
    simp [portText, Connection.part]
  · cases h

theorem url_eq_iff (hc : c.login? = some l) (hd : d.login? = some m) :
    d.url = c.url ↔ m.written = l.written := by
  rw [← String.toList_inj, url_of_login? hc, url_of_login? hd, List.append_cancel_left_eq]

/-- A connection to the server, under some name. -/
def connection (l : Login) (serviceName : String) : Connection where
  kind := .postgresql
  serviceName := serviceName
  host := some l.host
  port := l.port
  database := some l.database
  username := some l.username
  password := some l.password

theorem login?_connection (l : Login) (serviceName : String) :
    (l.connection serviceName).login? = some l := rfl

/-- A service that can open what stands at one address only. -/
def opening (url : String) : Service :=
  { settings := {}
    databaseAt := fun u => .bare (if u = url then .ok () else .error (.failed "no such user")) }

/-- Whether a database lets in those who come with one address and no others. -/
theorem exists_telling_iff {url url' : String} :
    (∃ s : Service, (s.databaseAt url).connect = .ok () ∧
      (s.databaseAt url').connect ≠ .ok ()) ↔ url' ≠ url := by
  constructor
  · rintro ⟨s, hopen, hshut⟩ rfl
    exact hshut hopen
  · intro hne
    refine ⟨opening url, if_pos rfl, ?_⟩
    show (if url' = url then .ok () else .error (.failed "no such user") :
      Except ConnectFault Unit) ≠ .ok ()
    rw [if_neg hne]
    exact nofun

/-- Two logins share an address exactly if marks can be moved from one to the other.  So an address
identifies a plain login, and then some databases let in this one and not the others; for a login
that is not plain there is another one that is let in wherever this one is. -/
theorem url_identifies {c : Connection} (hc : c.login? = some l) :
    (∀ (d : Connection) (m : Login), d.login? = some m →
      (d.url = c.url ↔ Relation.EqvGen Shift l m)) ∧
    (l.Plain ↔ ∀ (d : Connection) (m : Login), d.login? = some m → d.url = c.url → m = l) ∧
    (l.Plain ↔ ∀ (d : Connection) (m : Login), d.login? = some m → m ≠ l →
      ∃ s : Service, (s.databaseAt c.url).connect = .ok () ∧
        (s.databaseAt d.url).connect ≠ .ok ()) := by
  have hidentifies : l.Plain ↔
      ∀ (d : Connection) (m : Login), d.login? = some m → d.url = c.url → m = l := by
    rw [plain_iff_written]
    constructor
    · intro h d m hd hurl
      exact h m ((url_eq_iff hc hd).mp hurl)
    · intro h m hwritten
      have hd := m.login?_connection c.serviceName
      exact h _ m hd ((url_eq_iff hc hd).mpr hwritten)
  refine ⟨fun d m hd => ?_, hidentifies, ?_⟩
  · rw [url_eq_iff hc hd, ← written_eq_iff]
    exact eq_comm
  · rw [hidentifies]
    refine forall_congr' fun d => forall_congr' fun m => forall_congr' fun _ => ?_
    rw [exists_telling_iff, not_imp_not]

theorem HasPort.mem_slash {s : String} (h : HasPort s) : '/' ∈ s.toList := by
  obtain ⟨v, port, w, rfl⟩ := h
  simp

/-- Marks in places where they cannot be taken for others. -/
def corporate : Login := ⟨"ann@corp", "s/t", "[::1]", none, "shop:2024"⟩

theorem corporate_plain : corporate.Plain where
  username := by decide
  password := by decide
  host := ⟨by decide, fun h => absurd h.mem_slash (by decide)⟩
  database := fun h => absurd h.mem_slash (by decide)

theorem corporate_identified :
    (corporate.connection "a").login? = some corporate ∧ corporate.Plain ∧
      (connection ⟨"ann", "corp:s/t", "[::1]", none, "shop:2024"⟩ "b").url ≠
        (corporate.connection "a").url := by
  have hlogin := corporate.login?_connection "a"
  obtain ⟨-, hidentifies, -⟩ := url_identifies hlogin
  refine ⟨hlogin, corporate_plain, fun hurl => ?_⟩
  exact absurd (hidentifies.mp corporate_plain _ _ (login?_connection _ "b") hurl) (by decide)

/-- A colon in a password may be the one that ends the name before it. -/
theorem colonPassword_shared :
    let mine := connection ⟨"ann", "s:t", "db", some 5432, "shop"⟩ "mine"
    let other := connection ⟨"ann:s", "t", "db", some 5432, "shop"⟩ "other"
    mine.login? = some ⟨"ann", "s:t", "db", some 5432, "shop"⟩ ∧
      other.login? = some ⟨"ann:s", "t", "db", some 5432, "shop"⟩ ∧
      other.url = mine.url ∧ other.username ≠ mine.username ∧ other.password ≠ mine.password := by
  decide

end Login
end SchemaLineage
