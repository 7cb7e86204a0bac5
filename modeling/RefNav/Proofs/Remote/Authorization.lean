import Mathlib.Data.List.TakeWhile
import RefNav.Proofs.Text.Base64
import RefNav.Proofs.Text.Utf8
import RefNav.Remote.Connection

/-! # Basic authentication

A server reads the header of basic authentication from its end: the base64 gives bytes, the bytes a
text, and the first colon of the text divides the user name from the password.  It reads what was
written, as long as the user name has no colon.
-/

namespace RefNav

open RefNav.Text

/-! ## What a server reads -/

/-- A text divided at its first colon. -/
def splitAtColon (text : String) : String × String :=
  (String.ofList (text.toList.takeWhile (· ≠ ':')),
    String.ofList ((text.toList.dropWhile (· ≠ ':')).drop 1))

/-- The user name and the password in the value of a header. -/
def credentials? (header : String) : Option (String × String) :=
  if "Basic ".toList.isPrefixOf header.toList then do
    let bytes ← Base64.decode? (header.toList.drop "Basic ".length)
    let text ← String.fromUTF8? ⟨bytes.toArray⟩
    return splitAtColon text
  else none

theorem splitAtColon_append {username : String} (h : ':' ∉ username.toList) (password : String) :
    splitAtColon (username ++ ":" ++ password) = (username, password) := by
  have name : ∀ c ∈ username.toList, decide (c ≠ ':') = true := by
    intro c known
    simpa using ne_of_mem_of_not_mem known h
  have text : (username ++ ":" ++ password).toList =
      username.toList ++ ':' :: password.toList := by simp
  rw [splitAtColon, text, List.takeWhile_append_of_pos name, List.dropWhile_append_of_pos name]
  simp

theorem fromUTF8?_toUTF8 (s : String) : String.fromUTF8? s.toUTF8 = some s := by
  rw [String.fromUTF8?, String.toUTF8_eq_toByteArray, dif_pos s.isValidUTF8]
  rfl

/-! ## What is written -/

theorem basicAuthorization_eq (username password : String) :
    basicAuthorization username password = "Basic " ++
      String.ofList (Base64.encode (username ++ ":" ++ password).toUTF8.data.toList) := by
  have text : username.toList ++ ':' :: password.toList =
      (username ++ ":" ++ password).toList := by simp
  rw [basicAuthorization, text, basicHeader, Utf8.encode_toList]

theorem credentials?_basicAuthorization {username : String} (h : ':' ∉ username.toList)
    (password : String) :
    credentials? (basicAuthorization username password) = some (username, password) := by
  have header : (basicAuthorization username password).toList = "Basic ".toList ++
      Base64.encode (username ++ ":" ++ password).toUTF8.data.toList := by
    simp [basicAuthorization_eq]
  have scheme : "Basic ".toList.isPrefixOf (basicAuthorization username password).toList := by
    rw [header, List.isPrefixOf_iff_prefix]
    exact List.prefix_append _ _
  have token : (basicAuthorization username password).toList.drop "Basic ".length =
      Base64.encode (username ++ ":" ++ password).toUTF8.data.toList := by
    rw [header]
    exact List.drop_left
  have text : String.fromUTF8? ⟨(username ++ ":" ++ password).toUTF8.data⟩ =
      some (username ++ ":" ++ password) := fromUTF8?_toUTF8 _
  simp only [credentials?, scheme, token, text, if_true, Base64.decode?_encode,
    Array.toArray_toList, Option.bind_eq_bind, Option.pure_def, Option.bind_some,
    splitAtColon_append h]

/-- The header is the scheme and padded base64 of the bytes of the user name, a colon and the
password.  Read back and divided at its first colon, it gives both again, so that different
credentials have different headers. -/
theorem basicAuthorization_read_back (username password : String)
    (plain : ':' ∉ username.toList) :
    let text := username ++ ":" ++ password
    ∃ token : String, basicAuthorization username password = "Basic " ++ token ∧
      Base64.Spells token.toList text.toUTF8.data.toList ∧
      Base64.decode? token.toList = some text.toUTF8.data.toList ∧
      splitAtColon text = (username, password) ∧
      credentials? (basicAuthorization username password) = some (username, password) ∧
      ∀ other secret : String, ':' ∉ other.toList →
        basicAuthorization other secret = basicAuthorization username password →
          other = username ∧ secret = password := by
  intro text
  have read := credentials?_basicAuthorization plain password
  refine ⟨_, basicAuthorization_eq username password, ?_, ?_, splitAtColon_append plain password,
    read, fun other secret otherPlain same => ?_⟩
  · rw [String.toList_ofList]
    exact Base64.spells_encode _
  · rw [String.toList_ofList]
    exact Base64.decode?_encode _
  · rw [← same, credentials?_basicAuthorization otherPlain secret] at read
    exact Prod.mk.inj (Option.some.inj read)

/-- The password has a colon and a character of two bytes, and the base64 two equal signs. -/
theorem basicAuthorization_read_back_padded :
    ':' ∉ "dev".toList ∧ basicAuthorization "dev" "ß:" = "Basic ZGV2OsOfOg==" ∧
      credentials? (basicAuthorization "dev" "ß:") = some ("dev", "ß:") := by
  have plain : ':' ∉ "dev".toList := by decide
  obtain ⟨_, _, _, _, _, read, _⟩ := basicAuthorization_read_back "dev" "ß:" plain
  exact ⟨plain, by decide +kernel, read⟩

end RefNav
