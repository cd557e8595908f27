import BoostFeed.Setup.Resolve

/-! The JSON form of a setup, to show what the layers of options came to. -/

namespace BoostFeed

open Json

def Setup.toTree (s : Setup) : Tree := .ofFields [
  ("base_url", .ofText s.baseUrl.print),
  ("ws_url", .ofOption (fun a => .ofText a.print) s.wsUrl),
  ("websocket", .bool s.websocket),
  ("view", .ofText s.view.name),
  ("min_sats", .ofInt s.session.minSats.toInt),
  ("playback", .bool s.session.playback),
  ("show_received_sats", .bool s.session.showReceivedSats),
  ("default_sound", .ofOption .ofText s.session.defaultSound),
  ("audio", .bool s.audio),
  ("poll_interval_secs", .ofNat s.pollIntervalSecs.toNat),
  ("balance_interval_secs", .ofNat s.balanceIntervalSecs.toNat),
  ("trigger_tick_ms", .ofNat s.triggerTickMs.toNat),
  ("age_refresh_secs", .ofNat ageRefreshSecs),
  ("request_timeout_secs", .ofNat s.requestTimeoutSecs.toNat),
  ("max_retries", .ofNat s.maxRetries.toNat),
  ("user_agent", .ofText userAgent),
  ("auth_token", .ofOption .ofText s.authToken),
  ("log_dir", .ofText s.logDir),
  ("log_level", .ofText s.logLevel)]

end BoostFeed
