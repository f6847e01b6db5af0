import PenPlotter.Console.Loop
import PenPlotter.Proofs.Url.Agreement
import PenPlotter.Settings.Basic

/-! # Addresses in valid settings

Valid settings name an address for requests, which the device's interface takes, and an address of
an event stream.  Both are checked as web addresses.  The stream's address is checked a second
time when the console opens, byte by byte, and then it has to be written as it is sent. -/

namespace PenPlotter

namespace Settings

variable {s : Settings}

theorem hasScheme_baseUrl (h : s.problem? = none) :
    hasScheme requestSchemes s.device.baseUrl = true :=
  problem?_eq_none_iff.1 h _ List.mem_cons_self

theorem hasScheme_streamUrl (h : s.problem? = none) :
    hasScheme streamSchemes s.stream.url = true :=
  problem?_eq_none_iff.1 h
    (hasScheme streamSchemes s.stream.url, .invalidUrl "stream.url" s.stream.url)
    (by simp [requirements])

end Settings

theorem exists_of_hasScheme {schemes : List Scheme} {url : String}
    (h : hasScheme schemes url = true) :
    ∃ u, Url.ofString? url = some u ∧ u.scheme ∈ schemes := by
  rw [hasScheme] at h
  split at h
  case h_1 u hu => exact ⟨u, hu, by simpa using h⟩
  case h_2 => cases h

theorem DeviceInterface.new?_of_hasScheme {url : String}
    (h : hasScheme requestSchemes url = true) : ∃ i, DeviceInterface.new? url = .ok i := by
  obtain ⟨⟨scheme, host, port, path, query⟩, hu, hscheme⟩ := exists_of_hasScheme h
  rw [DeviceInterface.new?, hu]
  simp only [requestSchemes, List.mem_cons, List.not_mem_nil, or_false] at hscheme
  rcases hscheme with rfl | rfl <;> exact ⟨_, rfl⟩

theorem Console.begin?_isOk_iff {σ : Type} (d : Device σ) (x : σ) (s : Settings) :
    (∃ c, (Console.begin? d x s).2 = .ok c) ↔ StreamAddress.isValid s.stream.url = true := by
  rw [Console.begin?]
  cases hvalid : StreamAddress.isValid s.stream.url with
  | false => simp
  | true => simp

/-- **Valid settings.**  The device's interface takes the address for requests.  The address of the
event stream is accepted, and the console opens, exactly if it is written as it is sent. -/
theorem Settings.usable_of_valid {σ : Type} (d : Device σ) (x : σ) (s : Settings)
    (h : s.problem? = none) :
    (∃ i, DeviceInterface.new? s.device.baseUrl = .ok i) ∧
      (StreamAddress.isValid s.stream.url = true ↔ StreamAddress.Written s.stream.url) ∧
      ((∃ c, (Console.begin? d x s).2 = .ok c) ↔ StreamAddress.Written s.stream.url) := by
  obtain ⟨u, hu, -⟩ := exists_of_hasScheme (hasScheme_streamUrl h)
  refine ⟨DeviceInterface.new?_of_hasScheme (hasScheme_baseUrl h),
    StreamAddress.isValid_iff_written hu, ?_⟩
  rw [Console.begin?_isOk_iff, StreamAddress.isValid_iff_written hu]

/-- Capital letters and slashes at the end do no harm to the address for requests, nor a user, a
host in brackets and a fragment to the stream's. -/
theorem Settings.usable_of_valid_brackets :
    let s : Settings :=
      { device := { baseUrl := "HTTP://LOCALHOST:8000/api//" }
        stream := { url := "wss://user:pw@[::1]:8000/log?since=0#end" } }
    s.problem? = none ∧ (∃ i, DeviceInterface.new? s.device.baseUrl = .ok i) ∧
      (StreamAddress.isValid s.stream.url = true ↔ StreamAddress.Written s.stream.url) ∧
      ((∃ c, (Console.begin? scriptedDevice ⟨[], []⟩ s).2 = .ok c) ↔
        StreamAddress.Written s.stream.url) ∧
      StreamAddress.isValid s.stream.url = true := by
  have hvalid : Settings.problem?
      { device := { baseUrl := "HTTP://LOCALHOST:8000/api//" }
        stream := { url := "wss://user:pw@[::1]:8000/log?since=0#end" } } = none := by
    decide +kernel
  obtain ⟨hrequests, hstream, hopens⟩ :=
    Settings.usable_of_valid scriptedDevice ⟨[], []⟩ _ hvalid
  exact ⟨hvalid, hrequests, hstream, hopens, by decide +kernel⟩

/-- A scheme in capital letters makes a valid address with which the console does not open. -/
theorem Settings.valid_but_unusable :
    let s : Settings := { stream := { url := "WS://localhost:8000/ws" } }
    s.problem? = none ∧ StreamAddress.isValid s.stream.url = false ∧
      (Console.begin? scriptedDevice ⟨[], []⟩ s).2 =
        .error ⟨["invalid event stream URL"], .connection (.invalidUrl s.stream.url)⟩ := by
  have hrefused : StreamAddress.isValid "WS://localhost:8000/ws" = false := by decide +kernel
  refine ⟨by decide +kernel, hrefused, ?_⟩
  rw [Console.begin?, hrefused]
  rfl

end PenPlotter
