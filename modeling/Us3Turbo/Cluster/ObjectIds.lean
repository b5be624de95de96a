import Us3Turbo.Backend.DataPlaneService
import Us3Turbo.Proxy.ControlPlaneService

/-! # Object ids

`GdsPut` joins the bucket and the key with a slash, which the proxy lets both contain.
-/

namespace Us3Turbo.Cluster

open Us3Turbo.Proto Us3Turbo.Backend
open Us3Turbo.Proxy (ProxyControlPlaneService defaultProxy)

section Joined

variable {Letter : Type*} {separator : Letter} {left right left' right' : List Letter}

theorem joined_suffix {more : List Letter} (longer : left' = left ++ more)
    (shorter : separator :: right = more ++ separator :: right') :
    (left = left' ∧ right = right') ∨
      ∃ middle, left' = left ++ separator :: middle ∧ right = middle ++ separator :: right' := by
  cases more with
  | nil =>
      rw [List.nil_append, List.cons.injEq] at shorter
      rw [List.append_nil] at longer
      exact .inl ⟨longer.symm, shorter.2⟩
  | cons first middle =>
      rw [List.cons_append, List.cons.injEq] at shorter
      obtain ⟨rfl, shorter⟩ := shorter
      exact .inr ⟨middle, longer, shorter⟩

/-- Words joined by a separator agree exactly when they are cut at the same separator, or one
of the cuts has the other one before it. -/
theorem joined_eq_iff : left ++ separator :: right = left' ++ separator :: right' ↔
    (left = left' ∧ right = right') ∨
      (∃ middle, left' = left ++ separator :: middle ∧ right = middle ++ separator :: right') ∨
      ∃ middle, left = left' ++ separator :: middle ∧ right' = middle ++ separator :: right := by
  constructor
  · intro joined
    rcases List.append_eq_append_iff.mp joined with ⟨more, longer, shorter⟩ | ⟨more, longer, shorter⟩
    · exact (joined_suffix longer shorter).imp_right .inl
    · exact (joined_suffix longer shorter).imp (fun same => ⟨same.1.symm, same.2.symm⟩) .inr
  · rintro (⟨rfl, rfl⟩ | ⟨middle, rfl, rfl⟩ | ⟨middle, rfl, rfl⟩)
    · rfl
    · rw [List.append_assoc, List.cons_append]
    · rw [List.append_assoc, List.cons_append]

end Joined

/-! ## The id of a chunk -/

def slash : Char := '/'

theorem toList_buildObjectId (bucket objectKey : String) :
    (buildObjectId bucket objectKey).toList = bucket.toList ++ slash :: objectKey.toList := by
  have separator : "/".toList = [slash] := rfl
  rw [buildObjectId, String.toList_append, String.toList_append, separator, List.append_assoc,
    List.singleton_append]

theorem eq_slashed_iff {text left middle : String} :
    text = left ++ "/" ++ middle ↔ text.toList = left.toList ++ slash :: middle.toList := by
  rw [← toList_buildObjectId, buildObjectId, String.toList_inj]

theorem buildObjectId_eq_iff {bucket objectKey bucket' objectKey' : String} :
    buildObjectId bucket objectKey = buildObjectId bucket' objectKey' ↔
      (bucket = bucket' ∧ objectKey = objectKey') ∨
      (∃ middle, bucket' = bucket ++ "/" ++ middle ∧ objectKey = middle ++ "/" ++ objectKey') ∨
      ∃ middle, bucket = bucket' ++ "/" ++ middle ∧ objectKey' = middle ++ "/" ++ objectKey := by
  have words (property : List Char → Prop) :
      (∃ middle : String, property middle.toList) ↔ ∃ middle, property middle := by
    constructor
    · rintro ⟨middle, holds⟩
      exact ⟨middle.toList, holds⟩
    · rintro ⟨middle, holds⟩
      exact ⟨String.ofList middle, by rwa [String.toList_ofList]⟩
  rw [← String.toList_inj, toList_buildObjectId, toList_buildObjectId, joined_eq_iff,
    String.toList_inj, String.toList_inj]
  simp only [eq_slashed_iff]
  rw [words fun middle => bucket'.toList = bucket.toList ++ slash :: middle ∧
      objectKey.toList = middle ++ slash :: objectKey'.toList,
    words fun middle => bucket.toList = bucket'.toList ++ slash :: middle ∧
      objectKey'.toList = middle ++ slash :: objectKey.toList]

/-- What `GdsPut` hands to `handlePutObject`. -/
def putArguments (chunk : GdsChunkRequest) : PutArguments :=
  ⟨buildObjectId chunk.bucket chunk.objectKey, parseRemoteBufferAddress chunk.rdmaToken,
    chunk.chunkSize, chunk.rdmaToken⟩

/-- `GdsPut` asks `handlePutObject` with these arguments only. -/
theorem gdsPut_putArguments (service : DataPlaneService) (server : Server) (chunk : GdsChunkRequest)
    (other : PutArguments → PutReply)
    (same : other (putArguments chunk) = server.handlePutObject (putArguments chunk)) :
    service.gdsPut { server with handlePutObject := other } chunk = service.gdsPut server chunk := by
  have received : service.receive { server with handlePutObject := other } chunk =
      service.receive server chunk := by
    rw [putArguments] at same
    simp only [DataPlaneService.receive, receiveAndDiscard, same]
  rw [DataPlaneService.gdsPut, DataPlaneService.gdsPut, received]
  rfl

/-- A chunk for the bucket and key of a session that the proxy has granted. -/
structure GrantedPut where
  proxy : ProxyControlPlaneService
  now : Int
  opening : OpenSessionRequest
  response : OpenSessionResponse
  granted : (proxy.openSession now opening).1 = .ok response
  chunk : GdsChunkRequest
  bucket : chunk.bucket = opening.bucket
  objectKey : chunk.objectKey = opening.objectKey

def GrantedPut.objectId (put : GrantedPut) : String := (putArguments put.chunk).objectId

/-- Granted pairs share an id only where one bucket goes on, after a slash, with text that
the other pair has in front of its key. -/
theorem objectId_eq_iff (first second : GrantedPut) : first.objectId = second.objectId ↔
    (first.opening.bucket = second.opening.bucket ∧
      first.opening.objectKey = second.opening.objectKey) ∨
    (∃ middle, second.opening.bucket = first.opening.bucket ++ "/" ++ middle ∧
      first.opening.objectKey = middle ++ "/" ++ second.opening.objectKey) ∨
    ∃ middle, first.opening.bucket = second.opening.bucket ++ "/" ++ middle ∧
      second.opening.objectKey = middle ++ "/" ++ first.opening.objectKey := by
  rw [← first.bucket, ← first.objectKey, ← second.bucket, ← second.objectKey]
  exact buildObjectId_eq_iff

/-- With buckets free of slashes the id tells the pairs apart. -/
theorem objectId_injective {first second : GrantedPut} (same : first.objectId = second.objectId)
    (plain : slash ∉ first.opening.bucket.toList) (plain' : slash ∉ second.opening.bucket.toList) :
    first.opening.bucket = second.opening.bucket ∧
      first.opening.objectKey = second.opening.objectKey := by
  have slashed {text left middle : String} (joined : text = left ++ "/" ++ middle) :
      slash ∈ text.toList := by
    rw [eq_slashed_iff.mp joined]
    exact List.mem_append_right _ List.mem_cons_self
  have split := buildObjectId_eq_iff.mp same
  rw [first.bucket, first.objectKey, second.bucket, second.objectKey] at split
  rcases split with pairs | ⟨_, longer, _⟩ | ⟨_, longer, _⟩
  · exact pairs
  · exact absurd (slashed longer) plain'
  · exact absurd (slashed longer) plain

def openingFor (bucket objectKey : String) : OpenSessionRequest where
  sessionId := "ses-1"
  bucket := bucket
  objectKey := objectKey
  opType := "PUT"
  dataFlow := "gds-cuobject"
  expectedSize := 4

/-- A put of `c` to the bucket `a/b`. -/
def deepBucket : GrantedPut where
  proxy := defaultProxy
  now := 0
  opening := openingFor "a/b" "c"
  response := ⟨"", "ses-1", "tkt-ses-1", "proxy-0", "192.168.1.198:9200", "1970-01-01T00:05:00Z"⟩
  granted := by decide
  chunk := {
    sessionId := "ses-1"
    bucket := "a/b"
    objectKey := "c"
    rdmaToken := "1000:42"
    chunkSize := 4 }
  bucket := rfl
  objectKey := rfl

/-- A put of `b/c` to the bucket `a`. -/
def deepKey : GrantedPut where
  proxy := defaultProxy
  now := 0
  opening := openingFor "a" "b/c"
  response := ⟨"", "ses-1", "tkt-ses-1", "proxy-0", "192.168.1.198:9200", "1970-01-01T00:05:00Z"⟩
  granted := by decide
  chunk := {
    sessionId := "ses-1"
    bucket := "a"
    objectKey := "b/c"
    rdmaToken := "1000:42"
    chunkSize := 4 }
  bucket := rfl
  objectKey := rfl

theorem deep_bucket_and_key_share_objectId :
    ¬ ∀ first second : GrantedPut, first.objectId = second.objectId →
      first.opening.bucket = second.opening.bucket ∧
        first.opening.objectKey = second.opening.objectKey := by
  intro injective
  have same : deepBucket.objectId = deepKey.objectId := by decide
  exact absurd (injective deepBucket deepKey same).1 (by decide)

end Us3Turbo.Cluster
