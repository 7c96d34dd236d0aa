import Census.Location
import Census.Proofs.Network.Address
import Census.Proofs.Time.Written
import Census.Record.Submission
import Census.Reporter

/-! Reports of a deployment are understood at its home: the address that a deployment found out is
one that a report may carry and that a place is looked up by, and what the report says arrives. -/
namespace Census

open Network Text Time

def Location.ofAnswer (address : String) : LocationAnswer → Except Failure Location
  | .failed f => .error (if isDatabaseFailure f then .locationLookup f else f)
  | .absent => .error (.locationAbsent address)
  | .entry e => ofEntry address e

theorem Location.find_of_read? (db : LocationDatabase) (ip : Option String) {a : Address}
    (h : Address.read? (trimBy isBlank (ip.getD "").toList) = some a) :
    find db ip = ofAnswer a.text (db a.text) := by
  unfold find ofAnswer
  cases hanswer : db a.text <;> simp only [h, hanswer]

namespace Reporter

theorem exists_addressIn {endpoints : List String} {line : NetworkLine} {ip : String}
    (h : (publicAddress endpoints line).1 = .ok ip) (hfound : ip ≠ "") :
    ∃ body a, addressIn body = some a ∧ a.text = ip := by
  fun_induction publicAddress endpoints line with
  | case1 line => exact absurd (Except.ok.inj h).symm hfound
  | case2 url rest line f line' hsend hpass ih => exact ih h
  | case3 url rest line f line' hsend hpass => cases h
  | case4 url rest line reply line' hsend a haddress =>
    split at haddress
    · exact ⟨reply.body, a, haddress, Except.ok.inj h⟩
    · cases haddress
  | case5 url rest line reply line' hsend hnone ih => exact ih h

theorem read?_publicAddress {endpoints : List String} {line : NetworkLine} {ip : String}
    (h : (publicAddress endpoints line).1 = .ok ip) (hfound : ip ≠ "") :
    ∃ a, Address.read? (trimBy isBlank ip.toList) = some a ∧ a.text = ip ∧
      isAllBlank ip = false := by
  obtain ⟨body, a, haddress, rfl⟩ := exists_addressIn h hfound
  unfold addressIn at haddress
  dsimp only at haddress
  refine ⟨a, ?_, rfl, Address.isAllBlank_text haddress⟩
  unfold Address.text
  rw [String.toList_ofList, Address.trimBy_write haddress]
  exact Address.read?_write_of_read? haddress

theorem find_publicAddress {ip : String} {a : Address}
    (hread : Address.read? (trimBy isBlank ip.toList) = some a) (htext : a.text = ip)
    (db : LocationDatabase) : Location.find db (some ip) = Location.ofAnswer ip (db ip) := by
  subst htext
  exact Location.find_of_read? db (some a.text) hread

def submission (r : Reporter) (now : Moment) (ip : String) : Submission :=
  ⟨r.service, ip, hardwareAddress r.node, r.deploymentId, r.version, some now⟩

theorem required_string {fields : List (String × Json)} {name s : String}
    (hfield : Json.field? fields name = some (.string s)) (hs : isAllBlank s = false) :
    Submission.required fields name = .ok s := by
  unfold Submission.required
  rw [hfield]
  dsimp only
  rw [hs]
  rfl

theorem optional_string {fields : List (String × Json)} {name s : String}
    (hfield : Json.field? fields name = some (.string s)) :
    Submission.optional fields name = .ok s := by
  unfold Submission.optional
  rw [hfield]

theorem optionalMoment_string {fields : List (String × Json)} {name s : String} {m : Moment}
    (hfield : Json.field? fields name = some (.string s)) (hs : Moment.read? s = some m) :
    Submission.optionalMoment fields name = .ok (some m) := by
  unfold Submission.optionalMoment Moment.ofJson?
  rw [hfield]
  dsimp only
  rw [hs]

theorem ofJson_report {r : Reporter} (hservice : isAllBlank r.service = false)
    (hversion : isAllBlank r.version = false) {now : Moment} (hutc : now.offset = some 0)
    {ip : String} (hip : isAllBlank ip = false) :
    Submission.ofJson (r.report now ip) = .ok (r.submission now ip) := by
  unfold report Submission.ofJson Submission.ofFields
  dsimp only
  rw [required_string (by rfl) hservice, required_string (by rfl) hip,
    optional_string (by rfl), optional_string (by rfl), required_string (by rfl) hversion,
    optionalMoment_string (by rfl) (Moment.read?_text hutc)]
  rfl

/-- A report that reached its home under a public address is accepted and recorded as it was sent,
with the time at which it was made, and its place is looked up by exactly that address. -/
theorem understood_report {r : Reporter} (hservice : isAllBlank r.service = false)
    (hversion : isAllBlank r.version = false) {line : NetworkLine} {ip : String}
    (haddress : (publicAddress r.endpoints line).1 = .ok ip) (hfound : ip ≠ "") {now : Moment}
    (hutc : now.offset = some 0) {bytes : List UInt8}
    (hbytes : Json.ofBytes? bytes = some (r.report now ip)) :
    (∃ s, Submission.ofBytes bytes = .ok s ∧ s.toRecord =
      { service := r.service, services := [], ipAddress := ip,
        macAddress := hardwareAddress r.node, deploymentId := r.deploymentId,
        version := r.version, country := "", city := "", latitude := 0.0, longitude := 0.0,
        lastSeen := none, serviceTime := some now }) ∧
      (∃ a, Address.read? (trimBy isBlank ip.toList) = some a ∧ a.text = ip) ∧
      ∀ db, Location.find db (some ip) = Location.ofAnswer ip (db ip) := by
  obtain ⟨a, hread, htext, hip⟩ := read?_publicAddress haddress hfound
  refine ⟨⟨r.submission now ip, ?_, rfl⟩, ⟨a, hread, htext⟩, find_publicAddress hread htext⟩
  unfold Submission.ofBytes
  rw [hbytes]
  exact ofJson_report hservice hversion hutc hip

def observed : NetworkLine where
  answers := [.ok ⟨503, []⟩, .ok ⟨200, "2001:DB8:0:0:0:0:0:1%eth0\n".toList.map (·.toNat.toUInt8)⟩]
  requests := []
  closed := false

def probe : Reporter where
  service := "mfx"
  version := "0.1"
  deploymentId := "d"
  node := 0x020304050607

def carried : List UInt8 :=
  ("\x7b\"service\":\"mfx\",\"ip_address\":\"2001:db8::1%eth0\"," ++
    "\"mac_address\":\"02:03:04:05:06:07\",\"deployment_id\":\"d\"," ++
    "\"magistrala_version\":\"0.1\"," ++
    "\"last_seen\":\"1970-01-01T00:00:00.250000+00:00\"\x7d").toList.map (·.toNat.toUInt8)

set_option maxRecDepth 8192 in
theorem ofBytes?_carried : Json.ofBytes? carried =
    some (probe.report ⟨250000, some 0, by decide, by decide⟩ "2001:db8::1%eth0") :=
  rfl

theorem understood_probe : (∃ s, Submission.ofBytes carried = .ok s ∧ s.toRecord =
      { service := "mfx", services := [], ipAddress := "2001:db8::1%eth0",
        macAddress := "02:03:04:05:06:07", deploymentId := "d", version := "0.1", country := "",
        city := "", latitude := 0.0, longitude := 0.0, lastSeen := none,
        serviceTime := some ⟨250000, some 0, by decide, by decide⟩ }) ∧
    ∀ db, Location.find db (some "2001:db8::1%eth0") =
      Location.ofAnswer "2001:db8::1%eth0" (db "2001:db8::1%eth0") := by
  have haddress : (publicAddress probe.endpoints observed).1 = .ok "2001:db8::1%eth0" := by
    decide +kernel
  have hreport := @understood_report probe (by decide) (by decide) observed _ haddress (by decide) _
    rfl carried ofBytes?_carried
  exact ⟨hreport.1, hreport.2.2⟩

end Reporter
end Census
