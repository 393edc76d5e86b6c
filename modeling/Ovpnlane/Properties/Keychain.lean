import Ovpnlane.Construction.Main
import Ovpnlane.Framework.Framing

/-!
# The keychain entries of profiles and users

`keychain_account` joins the path of a profile and a username with a line feed, which both of them
may contain.  `keychain_scoped_iff` says which two pairs of a path and a username have entries of
their own: all but those where the line feed of one account falls into a component of the other.
-/

namespace Ovpnlane

variable {path user path' user' : String}

/-- The second path goes on where the first ends, with a line feed, and the first username makes up
for it. -/
def Shifted (path user path' user' : String) : Prop :=
  ∃ w, path' = path ++ "\n" ++ w ∧ user = w ++ "\n" ++ user'

lemma keychainAccount_toList :
    (keychainAccount path user).toList = path.toList ++ '\n' :: user.toList := by
  simp [keychainAccount]

lemma shifted_iff : Shifted path user path' user' ↔
    ∃ w, path'.toList = path.toList ++ '\n' :: w ∧ user.toList = w ++ '\n' :: user'.toList := by
  constructor
  · rintro ⟨w, rfl, rfl⟩
    exact ⟨w.toList, by simp, by simp⟩
  · rintro ⟨w, hpath, huser⟩
    exact ⟨String.ofList w, String.toList_inj.mp (by simp [hpath]),
      String.toList_inj.mp (by simp [huser])⟩

/-- When two accounts are the same. -/
lemma keychainAccount_eq_iff : keychainAccount path user = keychainAccount path' user' ↔
    (path = path' ∧ user = user') ∨ Shifted path user path' user' ∨
      Shifted path' user' path user := by
  rw [← String.toList_inj, keychainAccount_toList, keychainAccount_toList,
    append_cons_eq_append_cons_iff, shifted_iff, shifted_iff, String.toList_inj, String.toList_inj]

/-- What is stored under one account is not found under another. -/
lemma keychainPassword_of_ne {account account' : String} (h : account' ≠ account) (host : Host)
    (taken : Bool) (password : String) :
    (host.saveKeychainPassword taken account password).2.keychainPassword account' =
      host.keychainPassword account' := by
  unfold Host.saveKeychainPassword
  split
  · rfl
  · split_ifs
    · simp [Host.keychainPassword, h]
    · rfl

/-- **Two pairs of a profile path and a username have keychain entries of their own**, and a
password saved for one is never read for the other, unless one path continues the other with a line
feed and the other username makes up for it. -/
theorem keychain_scoped_iff (path user path' user' : String) :
    ((keychainAccount path user = keychainAccount path' user' → path = path' ∧ user = user') ∧
      ((path, user) ≠ (path', user') → ∀ (host : Host) (taken : Bool) (password : String),
        (host.saveKeychainPassword taken (keychainAccount path user) password).2.keychainPassword
          (keychainAccount path' user') = host.keychainPassword (keychainAccount path' user'))) ↔
      ¬ Shifted path user path' user' ∧ ¬ Shifted path' user' path user := by
  have hlonger : ∀ {path user path' user'}, Shifted path user path' user' → path ≠ path' := by
    rintro path user path' user' ⟨w, rfl, -⟩ heq
    simpa using congrArg (fun s : String => s.toList.length) heq
  constructor
  · rintro ⟨hscoped, -⟩
    constructor
    · intro h
      exact hlonger h (hscoped (keychainAccount_eq_iff.mpr (.inr (.inl h)))).1
    · intro h
      exact hlonger h (hscoped (keychainAccount_eq_iff.mpr (.inr (.inr h)))).1.symm
  · rintro ⟨hleft, hright⟩
    have hscoped : keychainAccount path user = keychainAccount path' user' →
        path = path' ∧ user = user' := by
      intro heq
      rcases keychainAccount_eq_iff.mp heq with hsame | h | h
      · exact hsame
      · exact absurd h hleft
      · exact absurd h hright
    refine ⟨hscoped, fun hne host taken password => ?_⟩
    refine keychainPassword_of_ne (fun heq => hne ?_) host taken password
    obtain ⟨rfl, rfl⟩ := hscoped heq.symm
    rfl

/-- A keychain without entries. -/
def emptyKeychain : Host where
  env := fun _ => none
  readToString := fun _ => .error "not found"
  readLine := .error "not a terminal"
  promptPassword := fun _ => .error "not a terminal"
  keyringEntry := fun _ _ => .ok ()
  getPassword := fun _ _ => .error .noEntry
  savedPassword := none
  provideCredentials := fun _ => .ok ()

/-- With a line feed in a username and in the name of a file, the password of one user and profile
is read for another user and another profile. -/
theorem keychain_shared :
    keychainAccount "/vpn/work.ovpn" "b\nalice" = keychainAccount "/vpn/work.ovpn\nb" "alice" ∧
      "/vpn/work.ovpn" ≠ "/vpn/work.ovpn\nb" ∧
      (emptyKeychain.saveKeychainPassword true (keychainAccount "/vpn/work.ovpn" "b\nalice")
        "secret").2.keychainPassword (keychainAccount "/vpn/work.ovpn\nb" "alice") =
          .ok (some "secret") := by
  have hsame : keychainAccount "/vpn/work.ovpn" "b\nalice" =
      keychainAccount "/vpn/work.ovpn\nb" "alice" := by decide
  refine ⟨hsame, by decide, ?_⟩
  rw [hsame]
  rfl

end Ovpnlane
