import Router1.Keenetic.Command

/-!
# The built-in destinations

The address ranges and domains the service falls back on, in the order of the source. The Google and
Cloudflare ranges are there so that a client with its own resolver is still routed.
-/

namespace Keenetic

/-- An IPv4 range as the service and the server profiles write it. -/
structure Ipv4Route where
  network : String
  mask : String
  deriving DecidableEq, Repr

def Ipv4Route.destination (route : Ipv4Route) : Destination := .ipv4 route.network route.mask

def telegramIpv4Routes : List Ipv4Route :=
  [⟨"91.105.192.0", "255.255.254.0"⟩, ⟨"91.108.0.0", "255.255.0.0"⟩,
    ⟨"91.108.4.0", "255.255.252.0"⟩, ⟨"91.108.8.0", "255.255.252.0"⟩,
    ⟨"91.108.12.0", "255.255.252.0"⟩, ⟨"91.108.16.0", "255.255.252.0"⟩,
    ⟨"91.108.20.0", "255.255.252.0"⟩, ⟨"91.108.56.0", "255.255.252.0"⟩,
    ⟨"95.161.0.0", "255.255.0.0"⟩, ⟨"95.161.64.0", "255.255.240.0"⟩,
    ⟨"149.154.0.0", "255.255.0.0"⟩, ⟨"149.154.160.0", "255.255.240.0"⟩,
    ⟨"185.76.151.0", "255.255.255.0"⟩]

def telegramIpv6Routes : List String :=
  ["2001:67c:4e8::/48", "2001:b28:f23c::/47", "2001:b28:f23d::/48", "2001:b28:f23e::/48",
    "2001:b28:f23f::/48", "2a0a:f280::/32"]

def googleIpv4Routes : List Ipv4Route :=
  [⟨"8.8.4.0", "255.255.255.0"⟩, ⟨"8.8.8.0", "255.255.255.0"⟩, ⟨"8.34.208.0", "255.255.240.0"⟩,
    ⟨"8.35.192.0", "255.255.240.0"⟩, ⟨"8.228.0.0", "255.252.0.0"⟩, ⟨"8.232.0.0", "255.252.0.0"⟩,
    ⟨"8.236.0.0", "255.254.0.0"⟩, ⟨"23.236.48.0", "255.255.240.0"⟩,
    ⟨"23.251.128.0", "255.255.224.0"⟩, ⟨"34.0.0.0", "255.254.0.0"⟩, ⟨"34.2.0.0", "255.255.0.0"⟩,
    ⟨"34.3.0.0", "255.255.254.0"⟩, ⟨"34.3.3.0", "255.255.255.0"⟩, ⟨"34.3.4.0", "255.255.255.0"⟩,
    ⟨"34.3.8.0", "255.255.248.0"⟩, ⟨"34.3.16.0", "255.255.240.0"⟩, ⟨"34.3.32.0", "255.255.224.0"⟩,
    ⟨"34.3.64.0", "255.255.192.0"⟩, ⟨"34.4.0.0", "255.252.0.0"⟩, ⟨"34.8.0.0", "255.248.0.0"⟩,
    ⟨"34.16.0.0", "255.240.0.0"⟩, ⟨"34.32.0.0", "255.224.0.0"⟩, ⟨"34.64.0.0", "255.192.0.0"⟩,
    ⟨"34.128.0.0", "255.192.0.0"⟩, ⟨"35.184.0.0", "255.248.0.0"⟩, ⟨"35.192.0.0", "255.252.0.0"⟩,
    ⟨"35.196.0.0", "255.254.0.0"⟩, ⟨"35.198.0.0", "255.255.0.0"⟩, ⟨"35.199.0.0", "255.255.128.0"⟩,
    ⟨"35.199.128.0", "255.255.192.0"⟩, ⟨"35.200.0.0", "255.248.0.0"⟩,
    ⟨"35.208.0.0", "255.240.0.0"⟩, ⟨"35.224.0.0", "255.240.0.0"⟩, ⟨"35.240.0.0", "255.248.0.0"⟩,
    ⟨"35.252.0.0", "255.252.0.0"⟩, ⟨"64.15.112.0", "255.255.240.0"⟩,
    ⟨"64.233.160.0", "255.255.224.0"⟩, ⟨"66.102.0.0", "255.255.240.0"⟩,
    ⟨"66.249.64.0", "255.255.224.0"⟩, ⟨"70.32.128.0", "255.255.224.0"⟩,
    ⟨"72.14.192.0", "255.255.192.0"⟩, ⟨"74.114.24.0", "255.255.248.0"⟩,
    ⟨"74.125.0.0", "255.255.0.0"⟩, ⟨"104.154.0.0", "255.254.0.0"⟩, ⟨"104.196.0.0", "255.252.0.0"⟩,
    ⟨"104.237.160.0", "255.255.224.0"⟩, ⟨"107.167.160.0", "255.255.224.0"⟩,
    ⟨"107.178.192.0", "255.255.192.0"⟩, ⟨"108.59.80.0", "255.255.240.0"⟩,
    ⟨"108.170.192.0", "255.255.192.0"⟩, ⟨"108.177.0.0", "255.255.128.0"⟩,
    ⟨"130.211.0.0", "255.255.0.0"⟩, ⟨"136.22.2.0", "255.255.254.0"⟩,
    ⟨"136.22.4.0", "255.255.254.0"⟩, ⟨"136.22.8.0", "255.255.252.0"⟩,
    ⟨"136.22.160.0", "255.255.240.0"⟩, ⟨"136.22.176.0", "255.255.248.0"⟩,
    ⟨"136.22.184.0", "255.255.254.0"⟩, ⟨"136.22.186.0", "255.255.255.0"⟩,
    ⟨"136.23.48.0", "255.255.240.0"⟩, ⟨"136.23.64.0", "255.255.192.0"⟩,
    ⟨"136.64.0.0", "255.224.0.0"⟩, ⟨"136.107.0.0", "255.255.0.0"⟩, ⟨"136.108.0.0", "255.252.0.0"⟩,
    ⟨"136.112.0.0", "255.248.0.0"⟩, ⟨"136.120.0.0", "255.255.252.0"⟩,
    ⟨"136.121.8.0", "255.255.248.0"⟩, ⟨"136.124.0.0", "255.254.0.0"⟩,
    ⟨"142.250.0.0", "255.254.0.0"⟩, ⟨"146.148.0.0", "255.255.128.0"⟩,
    ⟨"162.120.128.0", "255.255.128.0"⟩, ⟨"162.216.148.0", "255.255.252.0"⟩,
    ⟨"162.222.176.0", "255.255.248.0"⟩, ⟨"172.110.32.0", "255.255.248.0"⟩,
    ⟨"172.217.0.0", "255.255.0.0"⟩, ⟨"172.253.0.0", "255.255.0.0"⟩, ⟨"173.194.0.0", "255.255.0.0"⟩,
    ⟨"173.255.112.0", "255.255.240.0"⟩, ⟨"192.104.160.0", "255.255.254.0"⟩,
    ⟨"192.158.28.0", "255.255.252.0"⟩, ⟨"192.178.0.0", "255.254.0.0"⟩,
    ⟨"193.186.4.0", "255.255.255.0"⟩, ⟨"199.36.154.0", "255.255.254.0"⟩,
    ⟨"199.36.156.0", "255.255.255.0"⟩, ⟨"199.192.112.0", "255.255.252.0"⟩,
    ⟨"199.223.232.0", "255.255.248.0"⟩, ⟨"207.175.0.0", "255.255.0.0"⟩,
    ⟨"207.223.160.0", "255.255.240.0"⟩, ⟨"208.65.152.0", "255.255.252.0"⟩,
    ⟨"208.68.108.0", "255.255.252.0"⟩, ⟨"208.81.188.0", "255.255.252.0"⟩,
    ⟨"208.117.224.0", "255.255.224.0"⟩, ⟨"209.85.128.0", "255.255.128.0"⟩,
    ⟨"216.58.192.0", "255.255.224.0"⟩, ⟨"216.73.80.0", "255.255.240.0"⟩,
    ⟨"216.239.32.0", "255.255.224.0"⟩, ⟨"216.252.220.0", "255.255.252.0"⟩]

def cloudflareIpv4Routes : List Ipv4Route :=
  [⟨"173.245.48.0", "255.255.240.0"⟩, ⟨"103.21.244.0", "255.255.252.0"⟩,
    ⟨"103.22.200.0", "255.255.252.0"⟩, ⟨"103.31.4.0", "255.255.252.0"⟩,
    ⟨"141.101.64.0", "255.255.192.0"⟩, ⟨"108.162.192.0", "255.255.192.0"⟩,
    ⟨"190.93.240.0", "255.255.240.0"⟩, ⟨"188.114.96.0", "255.255.240.0"⟩,
    ⟨"197.234.240.0", "255.255.252.0"⟩, ⟨"198.41.128.0", "255.255.128.0"⟩,
    ⟨"162.158.0.0", "255.254.0.0"⟩, ⟨"104.16.0.0", "255.248.0.0"⟩, ⟨"104.24.0.0", "255.252.0.0"⟩,
    ⟨"172.64.0.0", "255.248.0.0"⟩, ⟨"131.0.72.0", "255.255.252.0"⟩]

def mediaResolveDomains : List String :=
  ["www.youtube.com", "m.youtube.com", "youtubei.googleapis.com", "youtube.googleapis.com",
    "i.ytimg.com", "yt3.ggpht.com", "rr1---sn-n8v7kn7l.googlevideo.com",
    "rr2---sn-n8v7kn7l.googlevideo.com", "rr3---sn-n8v7kn7l.googlevideo.com",
    "rr4---sn-n8v7kn7l.googlevideo.com", "web.telegram.org", "venus.web.telegram.org",
    "pluto.web.telegram.org", "telegram.org", "api.telegram.org", "cdn1.telegram-cdn.org",
    "cdn2.telegram-cdn.org", "www.instagram.com", "scontent.cdninstagram.com", "web.whatsapp.com"]

def aiResolveDomains : List String :=
  ["chatgpt.com", "chat.openai.com", "ios.chat.openai.com", "auth.openai.com", "api.openai.com",
    "cdn.openai.com", "cdn.oaistatic.com", "persistent.oaistatic.com", "files.oaiusercontent.com",
    "challenges.cloudflare.com", "client-api.arkoselabs.com", "newassets.hcaptcha.com",
    "events.statsigapi.net", "claude.ai", "api.claude.ai", "claudeusercontent.com",
    "console.anthropic.com", "perplexity.ai", "gemini.google.com",
    "generativelanguage.googleapis.com", "copilot.microsoft.com", "edgeservices.bing.com"]

def mediaDomains : List String :=
  ["youtube.com", "youtu.be", "www.youtube.com", "m.youtube.com", "googlevideo.com", "ggpht.com",
    "ytimg.com", "yt3.ggpht.com", "youtubei.googleapis.com", "youtube.googleapis.com",
    "youtube-nocookie.com", "telegram.org", "api.telegram.org", "core.telegram.org",
    "desktop.telegram.org", "web.telegram.org", "venus.web.telegram.org", "pluto.web.telegram.org",
    "flora.web.telegram.org", "k.web.telegram.org", "z.web.telegram.org", "updates.tdesktop.com",
    "telegramusercontent.com", "t.me", "telegram.me", "telegram.dog", "tdesktop.com",
    "tdesktop.org", "telegram-cdn.org", "cdn1.telegram-cdn.org", "cdn2.telegram-cdn.org",
    "cdn3.telegram-cdn.org", "cdn4.telegram-cdn.org", "cdn5.telegram-cdn.org", "cdn-telegram.org",
    "cdn1.cdn-telegram.org", "cdn2.cdn-telegram.org", "cdn3.cdn-telegram.org",
    "cdn4.cdn-telegram.org", "cdn5.cdn-telegram.org", "telegra.ph", "telesco.pe", "instagram.com",
    "www.instagram.com", "cdninstagram.com", "scontent.cdninstagram.com", "fbcdn.net",
    "facebook.com", "facebook.net", "messenger.com", "whatsapp.com", "whatsapp.net", "wa.me",
    "web.whatsapp.com"]

def aiDomains : List String :=
  ["chatgpt.com", "chat.com", "chat.openai.com", "ios.chat.openai.com", "ab.chatgpt.com",
    "cdn.chatgpt.com", "openai.com", "auth.openai.com", "auth0.openai.com", "api.openai.com",
    "cdn.openai.com", "oaistatic.com", "cdn.oaistatic.com", "persistent.oaistatic.com",
    "oaiusercontent.com", "files.oaiusercontent.com", "challenges.cloudflare.com",
    "arkoselabs.com", "client-api.arkoselabs.com", "funcaptcha.com", "hcaptcha.com",
    "newassets.hcaptcha.com", "statsigapi.net", "events.statsigapi.net", "featuregates.org",
    "browser-intake-datadoghq.com", "intercom.io", "intercomcdn.com", "sentry.io",
    "openaiapi-site.azureedge.net", "claude.ai", "api.claude.ai", "claudeusercontent.com",
    "anthropic.com", "console.anthropic.com", "api.anthropic.com", "statsig.anthropic.com",
    "perplexity.ai", "gemini.google.com", "generativelanguage.googleapis.com", "ai.google.dev",
    "bard.google.com", "copilot.microsoft.com", "bing.com", "edgeservices.bing.com",
    "sydney.bing.com"]

end Keenetic
