import SpiWifi.Wlan.Station

/-!
Scanning for networks. The record fetched last is kept, so that each step of the
walk returns one entry and fetches the one after it.
-/

set_option autoImplicit false
set_option relaxedAutoImplicit false

namespace SpiWifi.Wlan.Station

open Chip

variable {σ : Type} [Layer σ]

/-- Sets the scan window; zero stops scanning. -/
def setScanWindow (millis : UInt32) : StationM σ Unit := do
  requireInitialized
  command (.setScanParams (.allChannels millis))

/-- Fetches the next scan record. A fetch that fails leaves the old one. -/
def fetchRecord : StationM σ Unit := do
  let record ← command .scanResult
  modify ({ · with scanRecord := record })

/-- Scans once and returns the number of networks found. -/
def startScan : StationM σ UInt32 := do
  requireInitialized
  setScanWindow (← get).config.scanWindow
  enter (σ := σ) .scanning
  settle (σ := σ) (← get).config.scanSettle
  fetchRecord
  return (← get).scanRecord.networkCount

def nextEntry : StationM σ ScanEntry := do
  requireInitialized
  let entry := (← get).scanRecord.decode
  fetchRecord
  return entry

def stopScan : StationM σ Unit := do
  setScanWindow 0
  if (← get).stage = .scanning then
    enter (σ := σ) .initialized

end SpiWifi.Wlan.Station
