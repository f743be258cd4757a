/-
# What a fingerprint is taken of

The bytes that are hashed for a login, a url with a user name and a password, say which
login it is. A field starts with a tag and, if there is a text, with the length of the text,
so one knows where it ends before one has looked at a byte of it: whatever stands in a text,
be it bytes that look like tags or lengths, none of it is taken for the frame. So no field
can be read in two ways, whatever comes behind it, and neither can three in a row.

Lengths are written with eight bytes, so this is about texts shorter than 2^64 bytes. The
module does not show that two logins have different fingerprints, which are digests cut
short. It shows that if they do not, two different messages with the same beginning of the
digest have been found.
-/

import ConnectionPooling.Proofs.Credentials
import Mathlib.Algebra.Group.Nat.Defs
import Mathlib.Data.List.Induction

namespace ConnectionPooling

/-! ## Numbers as bytes -/

namespace Digest.Sha256

@[simp] theorem length_bytesOfNat (count n : Nat) : (bytesOfNat count n).length = count := by
  induction count generalizing n with
  | zero => rfl
  | succ count ih => rw [bytesOfNat, List.length_append, ih, List.length_singleton]

/-- A number is known from as many of its bytes as it has. -/
theorem bytesOfNat_inj {count m n : Nat} (hm : m < 256 ^ count) (hn : n < 256 ^ count)
    (same : bytesOfNat count m = bytesOfNat count n) : m = n := by
  induction count generalizing m n with
  | zero => omega
  | succ count ih =>
    rw [Nat.pow_succ, Nat.mul_comm] at hm hn
    obtain ⟨upper, lowest⟩ := List.append_inj' same rfl
    have upper : m / 256 = n / 256 :=
      ih (Nat.div_lt_of_lt_mul hm) (Nat.div_lt_of_lt_mul hn) upper
    have lowest : m % 256 = n % 256 := by
      simpa using congrArg UInt8.toNat (List.singleton_inj.1 lowest)
    omega

@[simp] theorem length_digest (message : List UInt8) : (digest message).length = 32 := by
  simp [digest]

/-- Two different messages whose digests have the first `count` bytes in common. -/
structure Collision (count : Nat) (first second : List UInt8) : Prop where
  /-- The messages are different. -/
  ne : first ≠ second
  /-- Their digests begin alike. -/
  digest_take : (digest first).take count = (digest second).take count

end Digest.Sha256

namespace Fingerprint

theorem natOfBytes_append_singleton (bytes : List UInt8) (byte : UInt8) :
    natOfBytes (bytes ++ [byte]) = 256 * natOfBytes bytes + byte.toNat := by
  simp [natOfBytes]

theorem natOfBytes_lt (bytes : List UInt8) : natOfBytes bytes < 256 ^ bytes.length := by
  induction bytes using List.reverseRecOn with
  | nil => exact Nat.one_pos
  | append_singleton bytes byte ih =>
    rw [natOfBytes_append_singleton, List.length_append, List.length_singleton, Nat.pow_succ]
    have := byte.toNat_lt
    omega

/-- As many bytes as went into a number come out of it. -/
theorem bytesOfNat_natOfBytes (bytes : List UInt8) :
    Digest.Sha256.bytesOfNat bytes.length (natOfBytes bytes) = bytes := by
  induction bytes using List.reverseRecOn with
  | nil => rfl
  | append_singleton bytes byte ih =>
    have small := byte.toNat_lt
    have upper : (256 * natOfBytes bytes + byte.toNat) / 256 = natOfBytes bytes := by omega
    have lowest : UInt8.ofNat (256 * natOfBytes bytes + byte.toNat) = byte := by
      apply UInt8.toNat.inj
      rw [UInt8.toNat_ofNat']
      omega
    rw [natOfBytes_append_singleton, List.length_append, List.length_singleton,
      Digest.Sha256.bytesOfNat, upper, ih, lowest]

theorem natOfBytes_inj {first second : List UInt8} (length : first.length = second.length)
    (same : natOfBytes first = natOfBytes second) : first = second := by
  rw [← bytesOfNat_natOfBytes first, ← bytesOfNat_natOfBytes second, length, same]

/-! ## One field -/

/-- The list of a byte array is made of its bytes in order. -/
theorem toList_loop (bytes : ByteArray) (i : Nat) (before : List UInt8) :
    ByteArray.toList.loop bytes i before = before.reverse ++ bytes.data.toList.drop i := by
  fun_induction ByteArray.toList.loop bytes i before with
  | case1 i before inside ih =>
    have next : bytes.data.toList.drop i = bytes.get! i :: bytes.data.toList.drop (i + 1) := by
      simpa [ByteArray.get!, inside] using
        List.drop_eq_getElem_cons (l := bytes.data.toList) (i := i) inside
    rw [ih, next, List.reverse_cons, List.append_assoc, List.singleton_append]
  | case2 i before past =>
    rw [List.drop_eq_nil_of_le (by simpa using Nat.le_of_not_gt past), List.append_nil]

theorem toList_toUTF8 (text : String) : text.toUTF8.toList = text.toByteArray.data.toList :=
  toList_loop text.toByteArray 0 []

theorem length_toUTF8 (text : String) : text.toUTF8.toList.length = text.utf8ByteSize := by
  rw [toList_toUTF8]
  rfl

theorem toUTF8_inj {first second : String} (same : first.toUTF8.toList = second.toUTF8.toList) :
    first = second := by
  rw [toList_toUTF8, toList_toUTF8] at same
  exact String.toByteArray_inj.1 (ByteArray.ext (Array.toList_inj.1 same))

/-- The length of a text, if there is one, can be written with eight bytes. -/
def Fits (field : Option String) : Prop :=
  ∀ text ∈ field, text.utf8ByteSize < 2 ^ 64

theorem fits_some {text : String} (short : text.utf8ByteSize < 2 ^ 64) : Fits (some text) := by
  rintro _ ⟨⟩
  exact short

/-- A field is known from its bytes whatever comes behind it, and so is what comes behind. -/
theorem encodeField_append_inj {first second : Option String} {rest rest' : List UInt8}
    (fits : Fits first) (fits' : Fits second)
    (same : encodeField first ++ rest = encodeField second ++ rest') :
    first = second ∧ rest = rest' := by
  cases first with
  | none =>
    cases second with
    | none => exact ⟨rfl, List.append_cancel_left same⟩
    | some text => cases same
  | some text =>
    cases second with
    | none => cases same
    | some text' =>
      simp only [encodeField, List.cons_append, List.append_assoc, List.cons.injEq,
        true_and] at same
      -- The lengths stand at the same place, so they are equal, and the texts end together.
      obtain ⟨size, texts⟩ := List.append_inj same (by simp)
      have size : text.utf8ByteSize = text'.utf8ByteSize :=
        Digest.Sha256.bytesOfNat_inj (fits text rfl) (fits' text' rfl) size
      obtain ⟨texts, rests⟩ := List.append_inj texts (by rw [length_toUTF8, length_toUTF8, size])
      exact ⟨congrArg some (toUTF8_inj texts), rests⟩

/-! ## The three fields of a login -/

/-- The lengths of all three texts of a login can be written with eight bytes. -/
structure LoginFits (login : String × Credentials) : Prop where
  url : Fits (some login.1)
  user : Fits login.2.user
  password : Fits login.2.password

theorem encode_inj {first second : String × Credentials} (fits : LoginFits first)
    (fits' : LoginFits second)
    (same : encode first.1 first.2 = encode second.1 second.2) : first = second := by
  obtain ⟨url, user, password⟩ := first
  obtain ⟨url', user', password'⟩ := second
  simp only [encode, List.append_assoc] at same
  obtain ⟨urls, same⟩ := encodeField_append_inj fits.url fits'.url same
  obtain ⟨users, same⟩ := encodeField_append_inj fits.user fits'.user same
  -- The last field has nothing behind it.
  have last : encodeField password ++ [] = encodeField password' ++ [] := by
    rw [List.append_nil, List.append_nil, same]
  obtain ⟨passwords, -⟩ := encodeField_append_inj fits.password fits'.password last
  cases urls
  cases users
  cases passwords
  rfl

/-- Two logins that would read alike if their texts were only written one after the
other. -/
inductive ReadsAlike : String × Credentials → String × Credentials → Prop
  /-- Characters at the end of the url are moved to the front of the user name. -/
  | urlToUser (url user : String) (password : Option String) (moved : String)
      (some_moved : moved ≠ "") :
      ReadsAlike (url ++ moved, ⟨some user, password⟩) (url, ⟨some (moved ++ user), password⟩)
  /-- Characters at the end of the user name are moved to the front of the password. -/
  | userToPassword (url user password moved : String) (some_moved : moved ≠ "") :
      ReadsAlike (url, ⟨some (user ++ moved), some password⟩)
        (url, ⟨some user, some (moved ++ password)⟩)
  /-- Characters at the end of the url are moved to the front of the password. -/
  | urlToPassword (url : String) (user : Option String) (password moved : String)
      (some_moved : moved ≠ "") :
      ReadsAlike (url ++ moved, ⟨user, some password⟩) (url, ⟨user, some (moved ++ password)⟩)
  /-- The user name is missing, or it is there and empty. -/
  | emptyUser (url : String) (password : Option String) :
      ReadsAlike (url, ⟨none, password⟩) (url, ⟨some "", password⟩)
  /-- The password is missing, or it is there and empty. -/
  | emptyPassword (url : String) (user : Option String) :
      ReadsAlike (url, ⟨user, none⟩) (url, ⟨user, some ""⟩)

/-- Logins that read alike are different all the same. -/
theorem ReadsAlike.ne {first second : String × Credentials}
    (alike : ReadsAlike first second) : first ≠ second := by
  cases alike with
  | urlToUser url user password moved some_moved => simp [some_moved]
  | userToPassword url user password moved some_moved => simp [some_moved]
  | urlToPassword url user password moved some_moved => simp [some_moved]
  | emptyUser url password => simp
  | emptyPassword url user => simp

/-! ## Fingerprints -/

/-- A fingerprint shows the first eight bytes of the digest, no more and no less. -/
theorem of_eq_iff (first second : String × Credentials) :
    of first.1 first.2 = of second.1 second.2 ↔
      (Digest.Sha256.digest (encode first.1 first.2)).take 8 =
        (Digest.Sha256.digest (encode second.1 second.2)).take 8 := by
  constructor
  · intro same
    have lengths (login : String × Credentials) :
        ((Digest.Sha256.digest (encode login.1 login.2)).take 8).length = 8 := by simp
    have value (login : String × Credentials) : (of login.1 login.2).value.toNat =
        natOfBytes ((Digest.Sha256.digest (encode login.1 login.2)).take 8) := by
      have small := natOfBytes_lt ((Digest.Sha256.digest (encode login.1 login.2)).take 8)
      rw [lengths, show 256 ^ 8 = 2 ^ 64 by decide] at small
      rw [of, UInt64.toNat_ofNat', Nat.mod_eq_of_lt small]
    apply natOfBytes_inj ((lengths first).trans (lengths second).symm)
    rw [← value, ← value, same]
  · intro same
    rw [of, of, same]

/-- The bytes that are hashed for two logins are the same only if the logins are. They
differ for logins that read alike. So if two different logins share a fingerprint, the
bytes hashed for them are a collision of the digest cut to eight bytes, and only then. -/
theorem encode_unambiguous {first second : String × Credentials} (fits : LoginFits first)
    (fits' : LoginFits second) :
    (encode first.1 first.2 = encode second.1 second.2 ↔ first = second) ∧
      (ReadsAlike first second → encode first.1 first.2 ≠ encode second.1 second.2) ∧
      (first ≠ second → (of first.1 first.2 = of second.1 second.2 ↔
        Digest.Sha256.Collision 8 (encode first.1 first.2) (encode second.1 second.2))) := by
  refine ⟨⟨encode_inj fits fits', fun same => same ▸ rfl⟩, ?_, ?_⟩
  · intro alike same
    exact alike.ne (encode_inj fits fits' same)
  · intro different
    rw [of_eq_iff]
    exact ⟨fun alike => ⟨fun same => different (encode_inj fits fits' same), alike⟩,
      fun collision => collision.digest_take⟩

/-- One letter is moved from the user name to the password. -/
theorem encode_unambiguous_of_letter_moved :
    LoginFits ("url", ⟨some "ab", some "c"⟩) ∧ LoginFits ("url", ⟨some "a", some "bc"⟩) ∧
      encode "url" ⟨some "ab", some "c"⟩ ≠ encode "url" ⟨some "a", some "bc"⟩ ∧
      (of "url" ⟨some "ab", some "c"⟩ = of "url" ⟨some "a", some "bc"⟩ ↔
        Digest.Sha256.Collision 8 (encode "url" ⟨some "ab", some "c"⟩)
          (encode "url" ⟨some "a", some "bc"⟩)) := by
  have fits : LoginFits ("url", ⟨some "ab", some "c"⟩) :=
    ⟨fits_some (by decide), fits_some (by decide), fits_some (by decide)⟩
  have fits' : LoginFits ("url", ⟨some "a", some "bc"⟩) :=
    ⟨fits_some (by decide), fits_some (by decide), fits_some (by decide)⟩
  have alike : ReadsAlike ("url", ⟨some "ab", some "c"⟩) ("url", ⟨some "a", some "bc"⟩) :=
    .userToPassword "url" "a" "c" "b" (by decide)
  obtain ⟨-, framed, shared⟩ := encode_unambiguous fits fits'
  exact ⟨fits, fits', framed alike, shared alike.ne⟩

end Fingerprint

/-- The logins of a run have fingerprints of their own unless two of the messages that
were hashed for them collide. -/
theorem World.hasDistinctFingerprints_of_no_collision {σ : Type}
    {past : List (World σ × Step σ)} {world : World σ}
    (fits : ∀ login ∈ world.logins past, Fingerprint.LoginFits login)
    (free : ∀ a ∈ world.logins past, ∀ b ∈ world.logins past,
      ¬ Digest.Sha256.Collision 8 (Fingerprint.encode a.1 a.2) (Fingerprint.encode b.1 b.2)) :
    world.HasDistinctFingerprints past := by
  intro a ha b hb same
  by_contra different
  refine free a ha b hb ⟨fun messages => different ?_, (Fingerprint.of_eq_iff a b).1 same⟩
  exact Fingerprint.encode_inj (fits a ha) (fits b hb) messages

end ConnectionPooling
